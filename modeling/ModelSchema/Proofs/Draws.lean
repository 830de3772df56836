import Mathlib.Data.List.Basic
import ModelSchema.Sample.Draw
import ModelSchema.Sample.Options

set_option autoImplicit false

/-!
# What draws yield

A draw has a property when every value that it yields has it, and when there is nothing it can fail
of but a lack of words. Properties of draws are put together like the draws themselves.

## Main definitions

* `Draw.Yields` — every value of a draw has a property, and it only fails when the words run out.

## Main results

* `Draw.Yields.bind`, `Draw.Yields.times` — one draw after another, and a draw that is repeated.
* `Draw.yields_below`, `Draw.yields_between`, `Draw.yields_choose` — numbers and elements lie where
  they were asked for.
* `Draw.yields_chance` — a decision is one way or the other, if it is made with a probability.
* `SampleOptions.isUnit_presence` — the settings give a probability to optional fields.
-/

namespace ModelSchema

namespace Draw

variable {α β : Type} {draw : Draw α} {P Q : α → Prop}

/-- Every value that the draw yields has the property, and the draw fails only when the words run
out. -/
def Yields (draw : Draw α) (P : α → Prop) : Prop :=
  ∀ words, draw words = .error .exhausted ∨ ∃ a rest, draw words = .ok (a, rest) ∧ P a

namespace Yields

/-! ## Putting draws together -/

/-- A property that follows from one of the values of a draw. -/
lemma imp (h : Yields draw P) (hPQ : ∀ a, P a → Q a) : Yields draw Q := by
  intro words
  obtain h | ⟨a, rest, h, ha⟩ := h words
  · exact .inl h
  · exact .inr ⟨a, rest, h, hPQ a ha⟩

/-- A value that is drawn has the property. -/
lemma of_eq_ok (h : Yields draw P) {words rest : List UInt64} {a : α}
    (ha : draw words = .ok (a, rest)) : P a := by
  obtain h | ⟨_, _, h, hP⟩ := h words
  · cases ha.symm.trans h
  · cases ha.symm.trans h
    exact hP

/-- A value without a draw. -/
lemma pure {a : α} (h : P a) : Yields (Pure.pure a : Draw α) P :=
  fun words => .inr ⟨a, words, rfl, h⟩

/-- One draw after another: the property of the second one may rest on that of the first. -/
lemma bind {f : α → Draw β} {R : β → Prop} (h : Yields draw P) (hf : ∀ a, P a → Yields (f a) R) :
    Yields (draw >>= f) R := by
  intro words
  change (draw words).bind (fun r => f r.1 r.2) = _ ∨
    ∃ b rest, (draw words).bind (fun r => f r.1 r.2) = .ok (b, rest) ∧ R b
  obtain h | ⟨a, rest, h, ha⟩ := h words
  · rw [h]
    exact .inl rfl
  · rw [h]
    exact hf a ha rest

/-- A draw that is repeated: there are as many values as it was repeated, and all of them have the
property. -/
lemma times (h : Yields draw P) (n : ℕ) :
    Yields (Draw.times n draw) fun as => as.length = n ∧ ∀ a ∈ as, P a := by
  induction n with
  | zero => exact pure ⟨rfl, by simp⟩
  | succ n ih =>
    rw [times_succ]
    refine h.bind fun a ha => ih.bind fun as has => pure ⟨?_, ?_⟩
    · rw [List.length_cons, has.1]
    · exact List.forall_mem_cons.2 ⟨ha, has.2⟩

end Yields

/-! ## Words and numbers -/

/-- A drawn word may be any word. -/
lemma yields_word : Yields word fun _ => True := by
  intro words
  cases words with
  | nil => exact .inl rfl
  | cons w words => exact .inr ⟨w, words, rfl, trivial⟩

/-- The number of an accepted word is below the range: it is the high half of a product with it. -/
lemma yields_accept (bits : ℕ) {range : ℕ} (hrange : range ≠ 0) :
    Yields (accept bits range) (· < range) := by
  intro words
  induction words with
  | nil => exact .inl rfl
  | cons w words ih =>
    unfold accept
    dsimp only
    split
    · refine .inr ⟨_, words, rfl, ?_⟩
      rw [Nat.shiftRight_eq_div_pow, Nat.shiftLeft_eq, Nat.one_mul]
      have hw : w.toNat % 2 ^ bits < 2 ^ bits := Nat.mod_lt _ (Nat.two_pow_pos bits)
      exact Nat.div_lt_of_lt_mul (Nat.mul_lt_mul_of_pos_right hw (Nat.pos_of_ne_zero hrange))
    · exact ih

/-- A number below a range is below it, unless there is no such number. -/
lemma yields_below (bits : ℕ) {range : ℕ} (hrange : range ≠ 0) :
    Yields (below bits range) (· < range) := by
  unfold below
  rw [if_neg hrange]
  split
  · next h =>
    refine yields_word.bind fun w _ => .pure ?_
    rw [h]
    exact Nat.mod_lt _ (by rw [Nat.shiftLeft_eq, Nat.one_mul]; exact Nat.two_pow_pos bits)
  · exact yields_accept bits hrange

/-- A number from one end of a range to the other is between them, unless they are the wrong way
round. -/
lemma yields_between {lo hi : UInt64} (h : lo ≤ hi) :
    Yields (between lo hi) fun n => lo ≤ n ∧ n ≤ hi := by
  unfold between
  rw [if_pos h]
  refine (yields_below 64 (Nat.succ_ne_zero _)).bind fun k hk => .pure ?_
  have hle : lo.toNat ≤ hi.toNat := UInt64.le_iff_toNat_le.1 h
  have hlt : lo.toNat + k < 2 ^ 64 := by
    have := hi.toNat_lt
    omega
  rw [UInt64.le_iff_toNat_le, UInt64.le_iff_toNat_le, UInt64.toNat_ofNat_of_lt' hlt]
  omega

/-! ## Elements, booleans and bytes -/

/-- An element of a list is one of its elements, unless it has none. -/
lemma yields_choose {as : List α} (h : as ≠ []) : Yields (choose as) (· ∈ as) := by
  unfold choose
  refine (yields_below _ (mt List.length_eq_zero_iff.1 h)).bind fun i hi => ?_
  rw [List.getElem?_eq_getElem hi]
  exact .pure (List.getElem_mem hi)

/-- A drawn bit may be either. -/
lemma yields_bit : Yields bit fun _ => True :=
  yields_word.bind fun _ _ => .pure trivial

/-- A drawn byte is below 256. -/
lemma yields_byte : Yields byte (· < 256) :=
  yields_word.bind fun _ _ => .pure (Nat.mod_lt _ (by decide))

/-- Something happens or not, if it is between zero and one how likely it is. -/
lemma yields_chance {p : Binary64} (h : p = .one ∨ p.isUnit = true) :
    Yields (chance p) fun _ => True := by
  unfold chance
  split
  · exact .pure trivial
  · next hp =>
    rw [if_pos (h.resolve_left hp)]
    exact yields_word.bind fun _ _ => .pure trivial

end Draw

/-! ## The probability of an optional field -/

namespace Binary64

/-- Of two numbers without a sign, one is not above the other. -/
lemma Magnitude.le_total (a b : Magnitude) : a.le b = true ∨ b.le a = true := by
  unfold Magnitude.le
  simpa using Nat.le_total _ _

/-- Zero lies between zero and one. -/
lemma isUnit_zero : zero.isUnit = true := by
  have hratio : Magnitude.zero.ratio.1 = 0 := by
    unfold Magnitude.ratio Magnitude.unscale Magnitude.zero
    split <;> simp
  simp [isUnit, zero, Magnitude.le, hratio]

/-- What has been brought between zero and one is a probability. -/
lemma isUnit_clampUnit {p : Binary64} (h : p ≠ .nan) :
    p.clampUnit = .one ∨ p.clampUnit.isUnit = true := by
  cases p with
  | nan => exact absurd rfl h
  | infinite negative =>
    cases negative with
    | true => exact .inr (by simpa [clampUnit] using isUnit_zero)
    | false => exact .inl (by simp [clampUnit])
  | finite negative a =>
    cases negative with
    | true => exact .inr (by simpa [clampUnit] using isUnit_zero)
    | false =>
      rw [clampUnit]
      split
      · exact .inl rfl
      · next ha =>
        right
        simpa [isUnit] using (Magnitude.le_total _ _).resolve_left ha

end Binary64

/-- Whatever the settings ask for, an optional field is there with a probability. -/
lemma SampleOptions.isUnit_presence (options : SampleOptions) :
    options.presence = .one ∨ options.presence.isUnit = true := by
  unfold presence
  split
  · right; decide
  · next p hp => exact Binary64.isUnit_clampUnit hp

end ModelSchema
