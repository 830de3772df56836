import Mathlib.Data.List.Basic
import ModelSchema.Proofs.Pieces

set_option autoImplicit false

/-!
# Tokens of scripts

What is written for a schema is cut into tokens in one way: words, decimal numbers, marks of a
single character, and literals in single quotes, with spaces and line breaks between them that do
not count. Which characters are marks and how a literal is read are left open here, and so is what a
token keeps of the characters that it is spelled with.

## Main definitions

* `TypeScript.isGap` — what may stand between tokens.
* `TypeScript.Lexicon` — the marks, the reader of literals, and the tokens.
* `TypeScript.Lexicon.all?` — the tokens of a text.
* `TypeScript.Lexicon.Writes` — the tokens of what is written, wherever it stands.

## Main results

* `TypeScript.Lexicon.all?_gap`, `TypeScript.Lexicon.all?_mark`, `TypeScript.Lexicon.all?_digit`,
  `TypeScript.Lexicon.all?_letter`, `TypeScript.Lexicon.all?_quote` — the steps of cutting a text,
  by its first character.
* `TypeScript.Lexicon.writes_word`, `TypeScript.Lexicon.writes_digits` — what is written as one
  token.
-/

namespace ModelSchema.TypeScript

/-- What may stand between tokens. -/
def isGap (c : Char) : Bool :=
  c == ' ' || c == '\n' || c == '\r'

/-- A gap is not a part of a word. -/
lemma isWordPart_eq_false_of_isGap {c : Char} (h : isGap c = true) :
    Piece.isWordPart c = false := by
  simp only [isGap, Bool.or_eq_true, beq_iff_eq] at h
  obtain (rfl | rfl) | rfl := h <;> rfl

/-- A part of a word is not a gap. -/
lemma isGap_eq_false_of_isWordPart {c : Char} (h : Piece.isWordPart c = true) : isGap c = false :=
  Bool.eq_false_iff.2 fun hgap => by simp [isWordPart_eq_false_of_isGap hgap] at h

/-- What tokens there are. -/
structure Lexicon (α : Type) where
  /-- The marks, each of which is a token. -/
  isMark : Char → Bool
  mark : Char → α
  word : List Char → α
  number : List Char → α
  /-- The token of a literal whose opening quote has been read, and what follows its closing
  quote. -/
  literal? : List Char → Option (α × List Char)
  /-- A mark is no gap, no quote, and no part of a word. -/
  mark_apart : ∀ {c}, isMark c = true → isGap c = false ∧ c ≠ '\'' ∧ Piece.isWordPart c = false
  /-- At least the closing quote of a literal is read. -/
  length_lt : ∀ {cs r}, literal? cs = some r → r.2.length < cs.length

namespace Lexicon

variable {α : Type} (lexicon : Lexicon α)

/-- The tokens of a text. A word and a number go on as long as they can. -/
def all? : List Char → Option (List α)
  | [] => some []
  | c :: cs =>
    if isGap c then all? cs
    else if lexicon.isMark c then (all? cs).map (lexicon.mark c :: ·)
    else if c.isDigit then
      (all? (cs.dropWhile Char.isDigit)).map (lexicon.number (c :: cs.takeWhile Char.isDigit) :: ·)
    else if Piece.isWordStart c then
      (all? (cs.dropWhile Piece.isWordPart)).map
        (lexicon.word (c :: cs.takeWhile Piece.isWordPart) :: ·)
    else if c = '\'' then
      match _h : lexicon.literal? cs with
      | some r => (all? r.2).map (r.1 :: ·)
      | none => none
    else none
termination_by cs => cs.length
decreasing_by
  · simp
  · simp
  · have := (List.dropWhile_sublist (l := cs) Char.isDigit).length_le
    simp only [List.length_cons]
    omega
  · have := (List.dropWhile_sublist (l := cs) Piece.isWordPart).length_le
    simp only [List.length_cons]
    omega
  · have := lexicon.length_lt _h
    simp only [List.length_cons]
    omega

/-! ## One token after another -/

section Steps

variable {lexicon} {c : Char} {cs : List Char}

/-- A part of a word is not a mark. -/
lemma isMark_eq_false_of_isWordPart (h : Piece.isWordPart c = true) : lexicon.isMark c = false :=
  Bool.eq_false_iff.2 fun hmark => by simp [(lexicon.mark_apart hmark).2.2] at h

/-- There are no tokens in an empty text. -/
lemma all?_nil : lexicon.all? [] = some [] := by
  rw [all?]

/-- A gap is passed over. -/
lemma all?_gap (h : isGap c = true) : lexicon.all? (c :: cs) = lexicon.all? cs := by
  rw [all?, if_pos h]

/-- A mark is a token. -/
lemma all?_mark (h : lexicon.isMark c = true) :
    lexicon.all? (c :: cs) = (lexicon.all? cs).map (lexicon.mark c :: ·) := by
  rw [all?, if_neg (by simp [(lexicon.mark_apart h).1]), if_pos h]

/-- A number goes on as long as there are digits. -/
lemma all?_digit (h : c.isDigit = true) :
    lexicon.all? (c :: cs) = (lexicon.all? (cs.dropWhile Char.isDigit)).map
      (lexicon.number (c :: cs.takeWhile Char.isDigit) :: ·) := by
  have hpart := Piece.isWordPart_of_isDigit h
  rw [all?, if_neg (by simp [isGap_eq_false_of_isWordPart hpart]),
    if_neg (by simp [isMark_eq_false_of_isWordPart hpart]), if_pos h]

/-- A word goes on as long as there are letters, underscores and digits. -/
lemma all?_letter (h : Piece.isWordStart c = true) :
    lexicon.all? (c :: cs) = (lexicon.all? (cs.dropWhile Piece.isWordPart)).map
      (lexicon.word (c :: cs.takeWhile Piece.isWordPart) :: ·) := by
  have hpart := Piece.isWordPart_of_isWordStart h
  rw [all?, if_neg (by simp [isGap_eq_false_of_isWordPart hpart]),
    if_neg (by simp [isMark_eq_false_of_isWordPart hpart]),
    if_neg (by simp [Piece.isDigit_eq_false_of_isWordStart h]), if_pos h]

/-- A quote begins a literal. -/
lemma all?_quote :
    lexicon.all? ('\'' :: cs) =
      (lexicon.literal? cs).bind fun r => (lexicon.all? r.2).map (r.1 :: ·) := by
  have hmark : ¬ lexicon.isMark '\'' = true := fun h => (lexicon.mark_apart h).2.1 rfl
  rw [all?, if_neg (by decide), if_neg hmark, if_neg (by decide), if_neg (by decide), if_pos rfl]
  split <;> next h => rw [h]; rfl

end Steps

/-! ## Tokens of what is written

What is written has the same tokens wherever it stands, as long as the last word or number of it
does not go on in what follows. Each construct puts a blank or a mark there. -/

/-- Characters are cut into tokens, whatever follows them that no word or number goes on in. -/
abbrev Writes (cs : List Char) (ts : List α) : Prop :=
  Lexing.Writes lexicon.all? Piece.isWordPart cs ts

variable {lexicon} {c : Char} {cs : List Char} {ts : List α}

/-- A gap before what is written. -/
lemma Writes.gap (h : isGap c = true) (hw : lexicon.Writes cs ts) : lexicon.Writes (c :: cs) ts :=
  Lexing.Writes.gap (fun _ => all?_gap h) hw

/-- A mark before what is written. -/
lemma Writes.mark (h : lexicon.isMark c = true) (hw : lexicon.Writes cs ts) :
    lexicon.Writes (c :: cs) (lexicon.mark c :: ts) :=
  Lexing.Writes.mark (fun _ => all?_mark h) hw

/-- A word is one token. -/
lemma writes_word {start : Char} {others : List Char} (hs : Piece.isWordStart start = true)
    (ho : ∀ d ∈ others, Piece.isWordPart d = true) :
    lexicon.Writes (start :: others) [lexicon.word (start :: others)] :=
  Lexing.Writes.run (fun _ => all?_letter hs) (fun _ hd => hd) ho

/-- The decimal digits of a number are one token. -/
lemma writes_digits (n : ℕ) :
    lexicon.Writes (Nat.toDigits 10 n) [lexicon.number (Nat.toDigits 10 n)] := by
  have hdigits : ∀ d ∈ Nat.toDigits 10 n, d.isDigit = true := fun d hd =>
    Nat.isDigit_of_mem_toDigits (by decide) (by decide) hd
  obtain ⟨d, ds, hn⟩ := List.exists_cons_of_ne_nil (Nat.toDigits_ne_nil (n := n) (b := 10))
  rw [hn] at hdigits ⊢
  obtain ⟨hd, hds⟩ := List.forall_mem_cons.1 hdigits
  refine Lexing.Writes.run (fun _ => all?_digit hd) ?_ hds
  exact fun _ hpart => (Bool.or_eq_false_iff.1 hpart).2

end Lexicon

end ModelSchema.TypeScript
