import Mathlib.Data.List.Basic
import ModelSchema.Proofs.TypeReading

set_option autoImplicit false

/-!
# Strings in scripts

A script is cut into tokens like a written type, but for its string literals: a literal in single
quotes ends with its line. So a text that is spelled between quotes is one token if it has no line
break, and otherwise the script that it stands in is not cut into tokens at all.

Only the part of the lexical grammar is here that declarations have a need of. Other characters,
escapes by number and lines that are continued are not read.

## Main definitions

* `TypeScript.ScriptToken.lexicon`, `TypeScript.ScriptToken.all?` — the tokens of a script.
* `TypeScript.ScriptToken.unescape?` — what a string literal denotes.
* `TypeScript.IsOneLine` — a text without line breaks.
* `TypeScript.Spells` — what the string literals of a script are, wherever it stands.

## Main results

* `TypeScript.unescape?_escaped` — what is spelled between quotes denotes the text that it is
  spelled for.
* `TypeScript.Spells.append` — what is written piece by piece has the string literals of the pieces.
* `TypeScript.spells_string` — a text between quotes is one string literal, if it has no line
  breaks.
-/

namespace ModelSchema.TypeScript

open Lexing

/-! ## Tokens -/

/-- A token of a script. -/
inductive ScriptToken where
  | word (letters : List Char)
  | number (digits : List Char)
  | mark (c : Char)
  /-- A string literal, by what is spelled between its quotes. -/
  | string (inside : List Char)
  deriving DecidableEq, Repr

namespace ScriptToken

/-- The marks of declarations. -/
def isMark (c : Char) : Bool :=
  TypeToken.isMark c || c == '='

/-- The characters that end a line. -/
def isLineBreak (c : Char) : Bool :=
  c == '\n' || c == '\r'

/-- What is spelled in a string literal whose opening quote has been read, and what follows its
closing quote. That is the first one which no backslash escapes, and it has to be on the same
line. -/
def closeString? : List Char → Option (List Char × List Char)
  | [] => none
  | '\'' :: cs => some ([], cs)
  | '\\' :: c :: cs =>
    if isLineBreak c then none else (closeString? cs).map fun r => ('\\' :: c :: r.1, r.2)
  | c :: cs => if isLineBreak c then none else (closeString? cs).map fun r => (c :: r.1, r.2)

/-- At least the closing quote is read. -/
lemma length_lt_of_closeString? {cs : List Char} {r : List Char × List Char}
    (h : closeString? cs = some r) : r.2.length < cs.length := by
  fun_induction closeString? cs generalizing r with
  | case1 => cases h
  | case2 cs => cases h; simp
  | case3 | case5 => cases h
  | case4 c cs _ ih =>
    obtain ⟨r, hr, rfl⟩ := Option.map_eq_some_iff.1 h
    have := ih hr
    simp only [List.length_cons]
    omega
  | case6 c cs _ _ _ ih =>
    obtain ⟨r, hr, rfl⟩ := Option.map_eq_some_iff.1 h
    have := ih hr
    simp only [List.length_cons]
    omega

/-- The character that an escaped one denotes. -/
def escaped? (c : Char) : Option Char :=
  match c with
  | 'b' => some '\x08'
  | 't' => some '\t'
  | 'n' => some '\n'
  | 'v' => some '\x0b'
  | 'f' => some '\x0c'
  | 'r' => some '\r'
  | 'x' | 'u' => none
  | c => if c.isDigit || isLineBreak c then none else some c

/-- What a string literal denotes, from what is spelled between its quotes. -/
def unescape? : List Char → Option (List Char)
  | [] => some []
  | ['\\'] => none
  | '\\' :: c :: cs => (escaped? c).bind fun d => (unescape? cs).map (d :: ·)
  | c :: cs => (unescape? cs).map (c :: ·)

/-- The tokens of scripts: the digits of a number, and what is spelled in a string literal. -/
def lexicon : Lexicon ScriptToken where
  isMark := isMark
  mark := .mark
  word := .word
  number := .number
  literal? cs := (closeString? cs).map fun r => (.string r.1, r.2)
  mark_apart h := by
    rcases Bool.or_eq_true_iff.1 h with h | h
    · exact TypeToken.lexicon.mark_apart h
    · rw [beq_iff_eq.1 h]
      decide
  length_lt h := by
    obtain ⟨r, hr, rfl⟩ := Option.map_eq_some_iff.1 h
    exact length_lt_of_closeString? hr

/-- The tokens of a script. -/
def all? (cs : List Char) : Option (List ScriptToken) :=
  lexicon.all? cs

/-- What is spelled in a token that is a string literal. -/
def string? : ScriptToken → Option (List Char)
  | .string inside => some inside
  | _ => none

end ScriptToken

open ScriptToken

/-! ## Texts between quotes -/

/-- What is spelled between quotes for a text. -/
def escaped (s : String) : List Char :=
  s.toList.flatMap quotedChar

/-- A text without line breaks. -/
def IsOneLine (s : String) : Prop :=
  ∀ c ∈ s.toList, isLineBreak c = false

/-- The characters of a text are looked at one by one. -/
instance : DecidablePred IsOneLine := fun s =>
  List.decidableBAll (fun c => isLineBreak c = false) s.toList

/-- A quote and a backslash are escaped by a backslash, and nothing else is. -/
lemma quotedChar_cases (c : Char) :
    (c = '\\' ∨ c = '\'') ∧ quotedChar c = ['\\', c] ∨
    c ≠ '\\' ∧ c ≠ '\'' ∧ quotedChar c = [c] := by
  unfold quotedChar
  split
  · next h => exact .inl ⟨h, rfl⟩
  · next h => exact .inr ⟨fun hc => h (.inl hc), fun hc => h (.inr hc), rfl⟩

/-- What is spelled between quotes denotes the text that it is spelled for. -/
theorem unescape?_escaped (s : String) : unescape? (escaped s) = some s.toList := by
  unfold escaped
  induction s.toList with
  | nil => rfl
  | cons c cs ih =>
    rw [List.flatMap_cons]
    rcases quotedChar_cases c with ⟨hc, hquoted⟩ | ⟨hslash, -, hquoted⟩
    · have hescaped : escaped? c = some c := by rcases hc with rfl | rfl <;> rfl
      rw [hquoted, List.cons_append, List.singleton_append, unescape?, hescaped, ih]
      rfl
    · rw [hquoted, List.singleton_append, unescape?.eq_4 _ _ (by simp [hslash]) (by simp [hslash]),
        ih]
      rfl

/-- One step of reading what is spelled between quotes. -/
lemma closeString?_quotedChar (c : Char) (cs : List Char) :
    closeString? (quotedChar c ++ cs) =
      if isLineBreak c then none
      else (closeString? cs).map fun r => (quotedChar c ++ r.1, r.2) := by
  rcases quotedChar_cases c with ⟨hc, hquoted⟩ | ⟨hslash, hquote, hquoted⟩
  · rw [hquoted]
    rfl
  · rw [hquoted, List.singleton_append, closeString?.eq_4 _ _ hquote (by simp [hslash])]
    rfl

/-- A text without line breaks is read up to the closing quote. -/
lemma closeString?_escaped {s : String} (h : IsOneLine s) (rest : List Char) :
    closeString? (escaped s ++ '\'' :: rest) = some (escaped s, rest) := by
  unfold IsOneLine at h
  unfold escaped
  generalize s.toList = cs at h ⊢
  induction cs with
  | nil => rfl
  | cons c cs ih =>
    rw [List.forall_mem_cons] at h
    rw [List.flatMap_cons, List.append_assoc, closeString?_quotedChar, if_neg (by simp [h.1]),
      ih h.2]
    rfl

/-- A text with a line break is not read to any closing quote. -/
lemma closeString?_eq_none {s : String} (h : ¬ IsOneLine s) (rest : List Char) :
    closeString? (escaped s ++ rest) = none := by
  unfold IsOneLine at h
  unfold escaped
  generalize s.toList = cs at h ⊢
  induction cs with
  | nil => exact absurd (by simp) h
  | cons c cs ih =>
    rw [List.flatMap_cons, List.append_assoc, closeString?_quotedChar]
    split
    · rfl
    · next hc =>
      rw [ih fun hcs => h (List.forall_mem_cons.2 ⟨Bool.eq_false_iff.2 hc, hcs⟩)]
      rfl

/-! ## String literals of what is written -/

/-- The string literals of characters are spelled for given texts, wherever the characters stand
before something that no word goes on in. If one of the texts has a line break, then nothing is cut
into tokens there, although the text is spelled like the others. -/
structure Spells (cs : List Char) (ss : List String) : Prop where
  spelled : ∀ s ∈ ss, '\'' :: (escaped s ++ ['\'']) <:+: cs
  closed : (∀ s ∈ ss, IsOneLine s) →
    ∃ ts, lexicon.Writes cs ts ∧ ts.filterMap string? = ss.map escaped
  stuck : ∀ s ∈ ss, ¬ IsOneLine s → ∀ rest, Stops Piece.isWordPart rest →
    lexicon.all? (cs ++ rest) = none

section Spelling

variable {c : Char} {cs ds : List Char} {ss us : List String}

/-- Characters without string literals. -/
lemma spells_of_writes (ts : List ScriptToken) (h : lexicon.Writes cs ts)
    (hts : ts.filterMap string? = []) : Spells cs [] :=
  ⟨nofun, fun _ => ⟨ts, h, hts⟩, nofun⟩

namespace Spells

/-- Nothing spells no texts. -/
lemma nil : Spells [] [] :=
  spells_of_writes [] Lexing.Writes.nil rfl

/-- A character that is passed over. -/
lemma gap (h : isGap c = true) (hs : Spells cs ss) : Spells (c :: cs) ss where
  spelled s hmem := List.infix_cons (hs.spelled s hmem)
  closed hlines := by
    obtain ⟨ts, hw, hts⟩ := hs.closed hlines
    exact ⟨ts, hw.gap h, hts⟩
  stuck s hmem hline rest hrest := by
    rw [List.cons_append, Lexicon.all?_gap h, hs.stuck s hmem hline rest hrest]

/-- A character that is a mark. -/
lemma mark (h : isMark c = true) (hs : Spells cs ss) : Spells (c :: cs) ss where
  spelled s hmem := List.infix_cons (hs.spelled s hmem)
  closed hlines := by
    obtain ⟨ts, hw, hts⟩ := hs.closed hlines
    exact ⟨.mark c :: ts, hw.mark h, hts⟩
  stuck s hmem hline rest hrest := by
    rw [List.cons_append, Lexicon.all?_mark h, hs.stuck s hmem hline rest hrest]
    rfl

/-- One text after another that does not go on with its last word. -/
lemma append (h : Spells cs ss) (hstops : ∀ rest, Stops Piece.isWordPart (ds ++ rest))
    (h' : Spells ds us) : Spells (cs ++ ds) (ss ++ us) where
  spelled s hmem := by
    rcases List.mem_append.1 hmem with hmem | hmem
    · exact (h.spelled s hmem).trans (List.prefix_append cs ds).isInfix
    · exact (h'.spelled s hmem).trans (List.suffix_append cs ds).isInfix
  closed hlines := by
    obtain ⟨ts, hw, hts⟩ := h.closed fun s hs => hlines s (List.mem_append_left _ hs)
    obtain ⟨vs, hw', hvs⟩ := h'.closed fun s hs => hlines s (List.mem_append_right _ hs)
    exact ⟨ts ++ vs, hw.append hstops hw', by rw [List.filterMap_append, hts, hvs, List.map_append]⟩
  stuck s hmem hline rest hrest := by
    -- a line break in the first text is met before the second one is read at all
    rw [List.append_assoc]
    by_cases hfirst : ∀ u ∈ ss, IsOneLine u
    · obtain ⟨ts, hw, -⟩ := h.closed hfirst
      rcases List.mem_append.1 hmem with hmem | hmem
      · exact absurd (hfirst s hmem) hline
      · rw [hw _ (hstops rest), h'.stuck s hmem hline rest hrest]
        rfl
    · obtain ⟨u, hfirst⟩ := not_forall.1 hfirst
      obtain ⟨hu, hbreak⟩ := Classical.not_imp.1 hfirst
      exact h.stuck u hu hbreak _ (hstops rest)

/-- One text after another that starts with a gap or a mark. -/
lemma append_cons (h : Spells cs ss) (hc : Piece.isWordPart c = false) (h' : Spells (c :: ds) us) :
    Spells (cs ++ c :: ds) (ss ++ us) :=
  h.append (fun _ => stops_cons hc _) h'

/-- An indentation spells no texts. -/
lemma indented (h : Spells cs ss) (width level : Nat) :
    Spells (indentation width level ++ cs) ss := by
  rw [indentation]
  induction level * width with
  | zero => simpa using h
  | succ n ih => exact ih.gap rfl

end Spells

/-- A word has no string literals. -/
lemma spells_word {start : Char} {others : List Char} (hs : Piece.isWordStart start = true)
    (ho : ∀ d ∈ others, Piece.isWordPart d = true) : Spells (start :: others) [] :=
  spells_of_writes [.word (start :: others)] (Lexicon.writes_word hs ho) rfl

/-- An identifier spells no texts. -/
lemma spells_identifier {name : String} (h : IsIdentifier name) : Spells name.toList [] := by
  obtain ⟨c, cs, hname, hc, hcs⟩ := h
  rw [hname]
  exact spells_word hc hcs

/-- The digits of a number have no string literals. -/
lemma spells_digits (n : Nat) : Spells (Nat.toDigits 10 n) [] :=
  spells_of_writes [.number (Nat.toDigits 10 n)] (Lexicon.writes_digits n) rfl

/-- A text between quotes is one string literal, if it has no line breaks. -/
theorem spells_string (s : String) : Spells (literalChars (.string s)) [s] where
  spelled u hmem := by
    obtain rfl := List.mem_singleton.1 hmem
    exact List.infix_rfl
  closed hlines := by
    refine ⟨[.string (escaped s)], fun rest _ => ?_, rfl⟩
    have hline := hlines s List.mem_cons_self
    rw [literalChars, List.cons_append, Lexicon.all?_quote, List.append_assoc,
      List.singleton_append]
    change ((closeString? (escaped s ++ '\'' :: rest)).map _).bind _ = _
    rw [closeString?_escaped hline]
    rfl
  stuck u hmem hline rest _ := by
    obtain rfl := List.mem_singleton.1 hmem
    rw [literalChars, List.cons_append, Lexicon.all?_quote, List.append_assoc]
    change ((closeString? (escaped u ++ _)).map _).bind _ = _
    rw [closeString?_eq_none hline]
    rfl

end Spelling

end ModelSchema.TypeScript
