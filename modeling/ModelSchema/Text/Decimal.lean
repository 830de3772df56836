set_option autoImplicit false

/-!
# Decimal numbers

Numbers are written in decimal digits. Those in a document are words: natural numbers below
`2 ^ 64`.

## Main definitions

* `Text.decimal` — the decimal digits of a number.
* `Text.wordChars` — the decimal digits of a word.
* `Text.readWord?` — the word that a text spells.

## Main results

* `Text.readWord?_wordChars` — reading the digits of a word gives the word.
-/

namespace ModelSchema.Text

/-- The decimal digits of a number. -/
def decimal (n : Nat) : String :=
  String.ofList (Nat.toDigits 10 n)

/-- The decimal digits of a word. -/
def wordChars (n : UInt64) : List Char :=
  Nat.toDigits 10 n.toNat

/-- The word that digits spell, if there are digits and their value is below `2 ^ 64`. -/
def digitsWord? (cs : List Char) : Option UInt64 :=
  let value := Nat.ofDigitChars 10 cs 0
  if cs ≠ [] ∧ cs.all Char.isDigit ∧ value < UInt64.size then some (UInt64.ofNat value) else none

/-- The word that a text spells: digits, after at most one plus sign. -/
def readWord? : List Char → Option UInt64
  | '+' :: cs => digitsWord? cs
  | cs => digitsWord? cs

/-- The digits of a word are read as that word. -/
theorem digitsWord?_wordChars (n : UInt64) : digitsWord? (wordChars n) = some n := by
  have hd : (wordChars n).all Char.isDigit = true := by
    simp only [List.all_eq_true]
    intro c hc
    exact Nat.isDigit_of_mem_toDigits (by decide) (by decide) hc
  have hv : Nat.ofDigitChars 10 (wordChars n) 0 = n.toNat :=
    Nat.ofDigitChars_ten_toDigits
  have hn : wordChars n ≠ [] := Nat.toDigits_ne_nil
  simp [digitsWord?, hd, hv, hn, n.toNat_lt_size]

/-- Reading the digits of a word gives the word. -/
theorem readWord?_wordChars (n : UInt64) : readWord? (wordChars n) = some n := by
  unfold readWord?
  split
  · next cs h =>
    have : '+' ∈ wordChars n := by simp [h]
    exact absurd (Nat.isDigit_of_mem_toDigits (by decide) (by decide) this) (by decide)
  · exact digitsWord?_wordChars n

end ModelSchema.Text
