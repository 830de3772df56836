import Mathlib.Algebra.Order.Ring.Nat
import ModelSchema.Proofs.Fitting

set_option autoImplicit false

/-!
# What draws reach

A draw reaches a value when some words make it yield that value. A draw made of others reaches what
its parts reach, by their words in a row.

## Main definitions

* `Draw.Reaches` — some words make a draw yield a value, and it takes all of them and no others.

## Main results

* `Draw.Reaches.bind`, `Draw.Reaches.times` — one draw after another, and a draw that is repeated.
* `Draw.reaches_below`, `Draw.reaches_between`, `Draw.reaches_choose` — every number of a range, up
  to the range of all words, and every element of a list.
* `Draw.reaches_chance_default` — an optional field can be there, and it can be missing.
* `Draw.reaches_instant`, `Draw.reaches_none` — every instant of a range, and where there may be
  none.
-/

namespace ModelSchema

namespace Draw

variable {α β : Type} {draw : Draw α} {a : α}

/-- Some words make the draw yield the value, and it takes all of them: whatever follows them is
left over. -/
def Reaches (draw : Draw α) (a : α) : Prop :=
  ∃ words, ∀ rest, draw (words ++ rest) = .ok (a, rest)

namespace Reaches

/-! ## Putting draws together -/

/-- A value that is given is reached without a word. -/
lemma pure (a : α) : Reaches (Pure.pure a : Draw α) a :=
  ⟨[], fun _ => rfl⟩

/-- One draw after another: the words of the second one follow those of the first. -/
lemma bind {f : α → Draw β} {b : β} (h : Reaches draw a) (hf : Reaches (f a) b) :
    Reaches (draw >>= f) b := by
  obtain ⟨words, h⟩ := h
  obtain ⟨more, hf⟩ := hf
  refine ⟨words ++ more, fun rest => ?_⟩
  change (draw (words ++ more ++ rest)).bind (fun r => f r.1 r.2) = _
  rw [List.append_assoc, h]
  exact hf rest

/-- A draw that is repeated reaches every list of as many values as it reaches one by one. -/
lemma times {as : List α} (h : ∀ a ∈ as, Reaches draw a) :
    Reaches (Draw.times as.length draw) as := by
  induction as with
  | nil => exact pure []
  | cons a as ih =>
    obtain ⟨ha, has⟩ := List.forall_mem_cons.1 h
    rw [List.length_cons, times_succ]
    exact ha.bind ((ih has).bind (pure (a :: as)))

end Reaches

/-! ## Words and numbers -/

/-- Every word is drawn. -/
lemma reaches_word (w : UInt64) : Reaches word w :=
  ⟨[w], fun _ => rfl⟩

/-- Every number below a range is the high half of a product with the range whose low half is below
the range.

**Proof sketch.** The product is the first multiple of the range that is not below
`k * 2 ^ bits`. -/
lemma exists_accepted {bits range k : ℕ} (hrange : range ≤ 2 ^ bits) (hk : k < range) :
    ∃ w < 2 ^ bits, w * range / 2 ^ bits = k ∧ w * range % 2 ^ bits < range := by
  have hpos : 0 < range := Nat.zero_lt_of_lt hk
  obtain ⟨w, hlo, hhi⟩ : ∃ w, k * 2 ^ bits ≤ w * range ∧ w * range < k * 2 ^ bits + range := by
    have hfloor := Nat.div_add_mod (k * 2 ^ bits + (range - 1)) range
    have hrest := Nat.mod_lt (k * 2 ^ bits + (range - 1)) hpos
    refine ⟨(k * 2 ^ bits + (range - 1)) / range, ?_, ?_⟩ <;>
      · rw [Nat.mul_comm _ range]
        omega
  have hnext : (k + 1) * 2 ^ bits ≤ range * 2 ^ bits := Nat.mul_le_mul_right _ hk
  rw [Nat.add_mul, Nat.one_mul] at hnext
  have hquotient : w * range / 2 ^ bits = k := by
    rw [Nat.div_eq_iff (Nat.two_pow_pos bits)]
    omega
  have hdivision := Nat.div_add_mod (w * range) (2 ^ bits)
  rw [hquotient, Nat.mul_comm] at hdivision
  refine ⟨w, ?_, hquotient, by omega⟩
  refine Nat.lt_of_mul_lt_mul_right (a := range) ?_
  rw [Nat.mul_comm (2 ^ bits)]
  omega

/-- No range is larger than its zone. -/
lemma le_zone (bits range : ℕ) : range ≤ zone bits range := by
  rw [zone, Nat.shiftLeft_eq]
  exact Nat.le_mul_of_pos_right _ (Nat.two_pow_pos _)

/-- Every number below a range is that of an accepted word. -/
lemma reaches_accept {bits range k : ℕ} (hbits : bits ≤ 64) (hrange : range ≤ 2 ^ bits)
    (hk : k < range) : Reaches (accept bits range) k := by
  obtain ⟨w, hw, hquotient, hrest⟩ := exists_accepted hrange hk
  have hword : w < 2 ^ 64 := hw.trans_le (Nat.pow_le_pow_right (by decide) hbits)
  refine ⟨[UInt64.ofNat w], fun rest => ?_⟩
  rw [List.singleton_append]
  unfold accept
  rw [UInt64.toNat_ofNat_of_lt' hword, Nat.shiftLeft_eq, Nat.one_mul, Nat.mod_eq_of_lt hw]
  dsimp only
  rw [if_pos (hrest.trans_le (le_zone bits range)), Nat.shiftRight_eq_div_pow, hquotient]

/-- Every number below a range is drawn, if words have enough bits for it. -/
lemma reaches_below {bits range k : ℕ} (hbits : bits ≤ 64) (hrange : range ≤ 2 ^ bits)
    (hk : k < range) : Reaches (below bits range) k := by
  unfold below
  rw [if_neg (Nat.ne_zero_of_lt hk)]
  split
  · next hall =>
    rw [Nat.shiftLeft_eq, Nat.one_mul] at hall ⊢
    have hword : k < 2 ^ 64 :=
      (hk.trans_le hrange).trans_le (Nat.pow_le_pow_right (by decide) hbits)
    have hvalue : (UInt64.ofNat k).toNat % 2 ^ bits = k := by
      rw [UInt64.toNat_ofNat_of_lt' hword, Nat.mod_eq_of_lt (hk.trans_le hrange)]
    refine (reaches_word (UInt64.ofNat k)).bind ?_
    rw [hvalue]
    exact .pure k
  · exact reaches_accept hbits hrange hk

/-- Every number from one end of a range to the other is drawn, also when these are the least and
the greatest word. -/
lemma reaches_between {lo hi n : UInt64} (hlo : lo ≤ n) (hhi : n ≤ hi) :
    Reaches (between lo hi) n := by
  have hordered : lo ≤ hi := UInt64.le_trans hlo hhi
  rw [UInt64.le_iff_toNat_le] at hlo hhi
  have hlt := hi.toNat_lt
  have hoffset : n.toNat - lo.toNat < hi.toNat - lo.toNat + 1 := by omega
  have hvalue : UInt64.ofNat (lo.toNat + (n.toNat - lo.toNat)) = n := by
    rw [Nat.add_sub_cancel' hlo, UInt64.ofNat_toNat]
  unfold between
  rw [if_pos hordered]
  refine (reaches_below (Nat.le_refl 64) (by omega) hoffset).bind ?_
  rw [hvalue]
  exact .pure n

/-! ## Elements, booleans and bytes -/

/-- Every element of a list is drawn, if its length is a word. -/
lemma reaches_choose {as : List α} (h : a ∈ as) (hlength : as.length < 2 ^ 64) :
    Reaches (choose as) a := by
  obtain ⟨i, hi, rfl⟩ := List.getElem_of_mem h
  have hindex : Reaches (below (indexBits as.length) as.length) i := by
    unfold indexBits
    split
    · next hshort =>
      rw [Nat.shiftLeft_eq, Nat.one_mul] at hshort
      exact reaches_below (by decide) hshort.le hi
    · exact reaches_below (Nat.le_refl 64) hlength.le hi
  refine hindex.bind ?_
  rw [List.getElem?_eq_getElem hi]
  exact .pure _

/-- Both booleans are drawn. -/
lemma reaches_bit (b : Bool) : Reaches bit b := by
  cases b with
  | false => exact (reaches_word 0).bind (.pure false)
  | true => exact (reaches_word 2147483648).bind (.pure true)

/-- Every byte is drawn. -/
lemma reaches_byte {b : ℕ} (h : b < 256) : Reaches byte b := by
  have hvalue : (UInt64.ofNat b).toNat % 256 = b := by
    rw [UInt64.toNat_ofNat_of_lt' (h.trans (by decide)), Nat.mod_eq_of_lt h]
  refine (reaches_word (UInt64.ofNat b)).bind ?_
  rw [hvalue]
  exact .pure b

/-- Something that is not certain happens by a word below the threshold of its probability, and does
not happen by any other word. -/
lemma reaches_chance {p : Binary64} (hone : p ≠ .one) (hunit : p.isUnit = true) (w : UInt64) :
    Reaches (chance p) (decide (w.toNat < p.threshold)) := by
  unfold chance
  rw [if_neg hone, if_pos hunit]
  exact (reaches_word w).bind (.pure _)

/-- With the default probability an optional field can be there, and it can be missing. -/
lemma reaches_chance_default (b : Bool) : Reaches (chance SampleOptions.defaultProbability) b := by
  have hone : SampleOptions.defaultProbability ≠ .one := by decide
  have hunit : SampleOptions.defaultProbability.isUnit = true := by decide
  cases b with
  | false => exact reaches_chance hone hunit (-1)
  | true => exact reaches_chance hone hunit 0

/-! ## Instants -/

section Instants

variable {last : Instant} {millis : ℤ}

/-- All milliseconds from the first ones to the last ones are drawn, and the first ones if these are
later. -/
lemma reaches_instant (hfirst : Timestamp.first.millis ≤ millis)
    (hlast : millis ≤ Max.max last.millis Timestamp.first.millis) :
    Reaches (instant last) (Instant.ofMillis? millis) := by
  have hvalue : Timestamp.first.millis = 1577836800000 := by decide
  have hbound : last.millis ≤ 8210266876800999 := by
    have hcovered := last.covered
    have hmilli := last.milli_lt
    unfold Instant.millis
    omega
  have hoffset : firstMillis + ((millis - firstMillis).toNat : ℤ) = millis := by
    rw [firstMillis_eq]
    omega
  rw [← hoffset]
  unfold instant
  rw [firstMillis_eq]
  refine (reaches_below (Nat.le_refl 64) ?_ ?_).bind (.pure _)
  · omega
  · omega

/-- Where the milliseconds of the last instant are beyond the calendar, no instant may be drawn. -/
lemma reaches_none (h : Instant.lastMillis < last.millis) : Reaches (instant last) none := by
  have hnone : Instant.ofMillis? last.millis = none :=
    (Instant.ofMillis?_eq_none_iff (le_trans (by decide) h.le)).2 h
  have hfirst : Timestamp.first.millis ≤ last.millis := le_trans (by decide) h.le
  rw [← hnone]
  exact reaches_instant hfirst (le_max_left _ _)

end Instants

end Draw

end ModelSchema
