import ModelSchema.Json.Numeral
import ModelSchema.Number.Binary64

set_option autoImplicit false

/-!
# Written numbers in binary floating point

A written number is read in two steps, each of which may round. Its digits are gathered into a word
as long as they fit; further digits before the point count as zeros, and further ones behind it are
dropped. Then the word is multiplied or divided by a power of ten, of which the largest is
`10 ^ 308`.

## Main definitions

* `Json.Numeral.gather` — the digits that fit into a word.
* `Json.Numeral.binary64?` — the number that is read, unless it is too large.
-/

namespace ModelSchema.Json.Numeral

open Binary64 (Magnitude)

/-- The value of the digits that can be appended to `word` below `2 ^ 64`, and the digits that
cannot. -/
def gather (word : Nat) : List Char → Nat × List Char
  | [] => (word, [])
  | c :: cs =>
    let longer := word * 10 + (c.toNat - 48)
    if longer < UInt64.size then gather longer cs else (word, c :: cs)

/-- The word of the digits of a number, and the power of ten that it is to be multiplied by. -/
def wordAndPower (n : Numeral) : Nat × Int :=
  let (word, uncounted) := gather 0 n.whole
  let fraction := n.fraction.getD []
  let (word', dropped) := gather word fraction
  (word', (uncounted.length : Int) - (fraction.length - dropped.length : Nat))

/-- The largest power of ten that is used at once. -/
def maxPower : Nat := 308

/-- The power of ten with an exponent up to the largest. -/
def powerOfTen (k : Nat) : Magnitude :=
  (Magnitude.ofNat? (Nat.pow 10 k)).getD .zero

/-- A number divided by `10 ^ k`, where `largest` is the largest power of ten, which is taken out
first while the exponent is above its own. -/
def shrinkBy (largest : Magnitude) (a : Magnitude) (k : Nat) : Option Magnitude :=
  if k ≤ maxPower then a.div? (powerOfTen k)
  else if a.significand = 0 then some a
  else (a.div? largest).bind fun b => shrinkBy largest b (k - maxPower)
termination_by k
decreasing_by
  have : 0 < maxPower := by decide
  omega

/-- A number divided by `10 ^ k`, as often by the largest power of ten as it takes. -/
def shrink (a : Magnitude) (k : Nat) : Option Magnitude :=
  shrinkBy (powerOfTen maxPower) a k

/-- The number nearest to a word times `10 ^ power`, up to the rounding of each step, unless it is
too large. -/
def scale (word : Nat) (power : Int) : Option Magnitude :=
  (Magnitude.ofNat? word).bind fun a =>
    if power < 0 then shrink a power.natAbs
    else if power.natAbs ≤ maxPower then a.mul? (powerOfTen power.natAbs)
    else if word = 0 then some a
    else none

/-- The greatest exponent that is told apart from greater ones. -/
def maxWrittenExponent : Nat := 2147483647

/-- The number that a written number is read as, unless it is too large. -/
def binary64? (n : Numeral) : Option Binary64 :=
  let (word, power) := n.wordAndPower
  let magnitude? :=
    match n.exponent with
    | none => scale word power
    | some (negative, digits) =>
      let value := Nat.ofDigitChars 10 digits 0
      if maxWrittenExponent < value then
        if word ≠ 0 ∧ negative = false then none else some .zero
      else scale word (if negative then power - value else power + value)
  magnitude?.map (.finite n.negative)

end ModelSchema.Json.Numeral
