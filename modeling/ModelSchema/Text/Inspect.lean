import ModelSchema.Text.CodeRange
import ModelSchema.Text.GraphemeExtend
import ModelSchema.Text.Unprintable

set_option autoImplicit false

/-!
# Inspectable text

Diagnostics show a character between single quotes and a name between double quotes, with everything
that would be invisible or ambiguous written as an escape.

## Main definitions

* `Text.isPlain` — whether a character is neither invisible nor ambiguous.
* `Text.inspectChar` — a character as a diagnostic shows it.
* `Text.inspect` — a text as a diagnostic shows it.
-/

namespace ModelSchema.Text

/-- The halfwidth sound marks of the Japanese syllables. They are letters that fill a cell of their
own, although they extend the grapheme before them. -/
def soundMarkRanges : List CodeRange :=
  [(0xFF9E, 0xFF9F)]

/-- Whether `c` attaches to the character before it. -/
def isAttached (c : Char) : Bool :=
  inRanges graphemeExtendRanges c && !inRanges soundMarkRanges c

/-- Whether `c` leaves a mark. -/
def isPrintable (c : Char) : Bool :=
  !inRanges unprintableRanges c && !inRanges defaultIgnorableRanges c

/-- Whether `c` can stand in a diagnostic as it is. -/
def isPlain (c : Char) : Bool :=
  isPrintable c && !isAttached c

/-- The escape of `c` by its code point: lower-case hexadecimal digits between braces. -/
def codePointEscape (c : Char) : List Char :=
  '\\' :: 'u' :: '{' :: (Nat.toDigits 16 c.toNat ++ ['}'])

/-- A character between the quotes `quote`: the quote itself, the backslash and the usual controls
have short escapes, the other characters that are not plain are written by code point. -/
def inspectEscape (quote : Char) (c : Char) : List Char :=
  match c with
  | '\x00' => ['\\', '0']
  | '\t' => ['\\', 't']
  | '\r' => ['\\', 'r']
  | '\n' => ['\\', 'n']
  | '\\' => ['\\', '\\']
  | _ =>
    if c = quote then ['\\', c]
    else if isPlain c then [c]
    else codePointEscape c

/-- A character between single quotes, as a diagnostic shows it. -/
def inspectChar (c : Char) : String :=
  String.ofList ('\'' :: (inspectEscape '\'' c ++ ['\'']))

/-- A text between double quotes, as a diagnostic shows it. -/
def inspect (s : String) : String :=
  String.ofList ('"' :: (s.toList.flatMap (inspectEscape '"') ++ ['"']))

end ModelSchema.Text
