import ModelSchema.Text.Casing
import ModelSchema.Text.CodeRange

set_option autoImplicit false

/-!
# Lower case

Lower-casing goes character by character, with two exceptions. The capital I with a dot becomes two
characters, an `i` and a combining dot. A capital sigma becomes a final sigma at the end of a word:
a cased letter stands before it and none after it, where characters that do not count for case are
passed over.

## Main definitions

* `Text.lowerChar` — the lower-case counterpart of one character.
* `Text.lowercase` — a text in lower case.
-/

namespace ModelSchema.Text

/-- The lower-case counterpart of a character that has a single one, and otherwise the character. -/
def lowerChar (c : Char) : Char :=
  (lowercaseRuns.findSome? fun run => CaseRun.apply? run c).getD c

/-- Whether the first character of `cs` that counts for case is a cased letter. -/
def casedAhead (cs : List Char) : Bool :=
  match cs.dropWhile (inRanges caseIgnorableRanges) with
  | [] => false
  | c :: _ => inRanges casedRanges c

/-- The lower-case form of `cs` after the characters `before`, which are held last one first. -/
def lowercaseAfter (before : List Char) : List Char → List Char
  | [] => []
  | c :: cs =>
    (if c = '\u0130' then ['i', '\u0307']
      else if c = 'Σ' then
        if casedAhead before && !casedAhead cs then ['ς'] else ['σ']
      else [lowerChar c]) ++ lowercaseAfter (c :: before) cs

/-- A text in lower case. -/
def lowercase (s : String) : String :=
  String.ofList (lowercaseAfter [] s.toList)

end ModelSchema.Text
