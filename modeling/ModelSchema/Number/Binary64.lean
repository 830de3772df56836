set_option autoImplicit false

/-!
# Binary floating point

The numbers of the 64-bit binary format: a significand below `2 ^ 53` times a power of two from
`2 ^ -1074` to `2 ^ 971`, with a sign; two infinities; and a value that is not a number. Every
operation is that of the exact value, rounded to the nearest number, a tie going to the even
significand.

## Main definitions

* `Binary64` — a number of the format.
* `Binary64.Magnitude` — a number without its sign, with `Magnitude.ofRatio?`, `Magnitude.mul?` and
  `Magnitude.div?`.
* `Binary64.bits` — the 64 bits of a number.
* `Binary64.clampUnit`, `Binary64.isUnit` — probabilities.
* `Binary64.threshold` — the whole part of a probability times `2 ^ 64`.
-/

namespace ModelSchema

/-- A finite number without its sign: `significand * 2 ^ exponent`. -/
structure Binary64.Magnitude where
  significand : Nat
  exponent : Int
  deriving DecidableEq, Inhabited, Repr

/-- A number of the 64-bit binary format. -/
inductive Binary64 where
  | nan
  | infinite (negative : Bool)
  | finite (negative : Bool) (magnitude : Binary64.Magnitude)
  deriving DecidableEq, Inhabited, Repr

namespace Binary64

namespace Magnitude

/-- The least exponent. -/
def minExponent : Int := -1074

/-- The greatest exponent. -/
def maxExponent : Int := 971

/-- The least significand of 53 digits. -/
def leastNormal : Nat := 1 <<< 52

/-- Zero. -/
def zero : Magnitude := ⟨0, minExponent⟩

/-- One. -/
def one : Magnitude := ⟨leastNormal, -52⟩

/-- A ratio with one of its sides multiplied by a power of two, so that the ratio is divided by
`2 ^ exponent`. -/
def unscale (num den : Nat) (exponent : Int) : Nat × Nat :=
  if exponent < 0 then (num <<< exponent.natAbs, den) else (num, den <<< exponent.natAbs)

/-- The nearest natural number to a ratio; a tie goes to the even one. -/
def nearest (num den : Nat) : Nat :=
  let q := num / den
  let r := num % den
  if den < 2 * r ∨ (2 * r = den ∧ q % 2 = 1) then q + 1 else q

/-- The exponent at which the whole part of a ratio has 53 digits, or the least exponent if that is
greater. -/
def exponentOf (num den : Nat) : Int :=
  let wanted : Int := (num.log2 : Int) - den.log2 - 53
  let guess := if wanted < minExponent then minExponent else wanted
  let (n, d) := unscale num den guess
  if 2 * leastNormal ≤ n / d then guess + 1 else guess

/-- The number nearest to a ratio, unless it is too large. -/
def ofRatio? (num den : Nat) : Option Magnitude :=
  if num = 0 then some zero
  else
    let exponent := exponentOf num den
    let (n, d) := unscale num den exponent
    let significand := nearest n d
    let rounded : Magnitude :=
      if significand = 2 * leastNormal then ⟨leastNormal, exponent + 1⟩ else ⟨significand, exponent⟩
    if maxExponent < rounded.exponent then none else some rounded

/-- The number nearest to a natural number, unless it is too large. -/
def ofNat? (n : Nat) : Option Magnitude :=
  ofRatio? n 1

/-- A number as a ratio. -/
def ratio (a : Magnitude) : Nat × Nat :=
  unscale a.significand 1 (-a.exponent)

/-- The product of two numbers, unless it is too large. -/
def mul? (a b : Magnitude) : Option Magnitude :=
  let (n, d) := a.ratio
  let (n', d') := b.ratio
  ofRatio? (n * n') (d * d')

/-- The quotient of two numbers, the second one not zero, unless it is too large. -/
def div? (a b : Magnitude) : Option Magnitude :=
  let (n, d) := a.ratio
  let (n', d') := b.ratio
  ofRatio? (n * d') (d * n')

/-- The whole part of a number times `2 ^ power`. -/
def scaled (a : Magnitude) (power : Nat) : Nat :=
  let (n, d) := a.ratio
  (n <<< power) / d

/-- Whether the first number is not above the second. -/
def le (a b : Magnitude) : Bool :=
  let (n, d) := a.ratio
  let (n', d') := b.ratio
  n * d' ≤ n' * d

/-- The bits of a number without its sign. -/
def bits (a : Magnitude) : Nat :=
  if a.significand < leastNormal then a.significand
  else (a.exponent - minExponent + 1).toNat * leastNormal + (a.significand - leastNormal)

end Magnitude

/-- The bit of the sign. -/
def signBit (negative : Bool) : Nat :=
  if negative then 1 <<< 63 else 0

/-- The 64 bits of a number. -/
def bits : Binary64 → Nat
  | .nan => 0x7FF8000000000000
  | .infinite negative => signBit negative + 0x7FF0000000000000
  | .finite negative magnitude => signBit negative + magnitude.bits

/-- Zero. -/
def zero : Binary64 := .finite false .zero

/-- One. -/
def one : Binary64 := .finite false .one

/-- The nearest number to `p` from zero to one, when `p` is a number at all. -/
def clampUnit : Binary64 → Binary64
  | .nan => .nan
  | .infinite negative => if negative then zero else one
  | .finite true _ => zero
  | .finite false a => if Magnitude.one.le a then one else .finite false a

/-- Whether a number is at least zero and at most one. -/
def isUnit : Binary64 → Bool
  | .finite negative a => if negative then a.significand == 0 else a.le .one
  | _ => false

/-- The whole part of a number from zero to one times `2 ^ 64`. -/
def threshold : Binary64 → Nat
  | .finite false a => a.scaled 64
  | _ => 0

end Binary64

end ModelSchema
