set_option autoImplicit false

/-!
# JSON numbers as written

A number keeps the digits it was written with, so that each reader decides for itself which values
it admits.

## Main definitions

* `Json.Numeral` — the parts of a written number.
* `Json.Numeral.read?` — the number at the start of a text.
* `Json.Numeral.word?` — the value of a plain number below `2 ^ 64`.

## Main results

* `Json.Numeral.length_lt_of_read?` — reading a number takes at least one character.
-/

namespace ModelSchema.Json

/-- The parts of a written number. -/
structure Numeral where
  /-- Whether a minus sign stands before the digits. -/
  negative : Bool
  /-- The digits before the point. -/
  whole : List Char
  /-- The digits after the point, if there is one. -/
  fraction : Option (List Char)
  /-- The sign (true for a minus) and the digits of the exponent, if there is one. -/
  exponent : Option (Bool × List Char)
  deriving DecidableEq, Inhabited, Repr

namespace Numeral

/-- The digits of the whole part: a zero on its own, or digits of which the first is not zero. -/
def readWhole? : List Char → Option (List Char × List Char)
  | '0' :: cs => some (['0'], cs)
  | c :: cs =>
    if c.isDigit then some (c :: cs.takeWhile Char.isDigit, cs.dropWhile Char.isDigit) else none
  | [] => none

/-- A point and at least one digit, if they come next. -/
def readFraction : List Char → Option (List Char) × List Char
  | '.' :: cs =>
    match cs.takeWhile Char.isDigit with
    | [] => (none, '.' :: cs)
    | ds => (some ds, cs.dropWhile Char.isDigit)
  | cs => (none, cs)

/-- The optional sign of an exponent, true for a minus. -/
def readSign : List Char → Bool × List Char
  | '-' :: cs => (true, cs)
  | '+' :: cs => (false, cs)
  | cs => (false, cs)

/-- The mark of an exponent, an optional sign and at least one digit, if they come next. -/
def readExponent : List Char → Option (Bool × List Char) × List Char
  | [] => (none, [])
  | c :: cs =>
    if c = 'e' ∨ c = 'E' then
      let (negative, rest) := readSign cs
      match rest.takeWhile Char.isDigit with
      | [] => (none, c :: cs)
      | ds => (some (negative, ds), rest.dropWhile Char.isDigit)
    else (none, c :: cs)

/-- The number without its sign at the start of a text, and what follows it. -/
def readUnsigned? (negative : Bool) (cs : List Char) : Option (Numeral × List Char) :=
  (readWhole? cs).map fun w =>
    let f := readFraction w.2
    let e := readExponent f.2
    (⟨negative, w.1, f.1, e.1⟩, e.2)

/-- The number at the start of a text, and what follows it. -/
def read? : List Char → Option (Numeral × List Char)
  | '-' :: cs => readUnsigned? true cs
  | cs => readUnsigned? false cs

/-- The value of a number written as digits alone, if it is below `2 ^ 64`. -/
def word? (n : Numeral) : Option UInt64 :=
  if n.negative = false ∧ n.fraction = none ∧ n.exponent = none then
    let value := Nat.ofDigitChars 10 n.whole 0
    if value < UInt64.size then some (UInt64.ofNat value) else none
  else none

/-! ## Progress

Reading a number takes at least one digit. -/

/-- The whole part of a number takes a digit at least. -/
theorem length_lt_of_readWhole? {cs : List Char} {w : List Char × List Char}
    (h : readWhole? cs = some w) : w.2.length < cs.length := by
  unfold readWhole? at h
  split at h
  · cases h; simp
  · next c cs _ =>
    split at h
    · cases h
      have := (List.dropWhile_sublist (l := cs) Char.isDigit).length_le
      simp only [List.length_cons]; omega
    · cases h
  · cases h

/-- What follows a fraction is no longer than what it is read from. -/
theorem length_readFraction_le (cs : List Char) : (readFraction cs).2.length ≤ cs.length := by
  unfold readFraction
  split
  · next cs =>
    have := (List.dropWhile_sublist (l := cs) Char.isDigit).length_le
    split <;> simp only [List.length_cons] <;> omega
  · simp

/-- What follows the sign of an exponent is no longer than what it is read from. -/
theorem length_readSign_le (cs : List Char) : (readSign cs).2.length ≤ cs.length := by
  unfold readSign
  split <;> simp

/-- What follows an exponent is no longer than what it is read from. -/
theorem length_readExponent_le (cs : List Char) : (readExponent cs).2.length ≤ cs.length := by
  unfold readExponent
  split
  · simp
  · next c cs =>
    split
    · have hs := length_readSign_le cs
      have := (List.dropWhile_sublist (l := (readSign cs).2) Char.isDigit).length_le
      dsimp only
      split <;> simp only [List.length_cons] <;> omega
    · simp

/-- A number without a sign takes a digit at least. -/
theorem length_lt_of_readUnsigned? {negative : Bool} {cs : List Char} {r : Numeral × List Char}
    (h : readUnsigned? negative cs = some r) : r.2.length < cs.length := by
  obtain ⟨w, hw, rfl⟩ := Option.map_eq_some_iff.1 h
  have h₁ := length_lt_of_readWhole? hw
  have h₂ := length_readFraction_le w.2
  have h₃ := length_readExponent_le (readFraction w.2).2
  dsimp only
  omega

/-- A number takes a digit at least. -/
theorem length_lt_of_read? {cs : List Char} {r : Numeral × List Char} (h : read? cs = some r) :
    r.2.length < cs.length := by
  unfold read? at h
  split at h
  · have := length_lt_of_readUnsigned? h
    simp only [List.length_cons]; omega
  · exact length_lt_of_readUnsigned? h

end Numeral

end ModelSchema.Json
