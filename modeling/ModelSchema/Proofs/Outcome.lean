import Mathlib.Data.List.Forall2
import ModelSchema.Trace

set_option autoImplicit false

/-!
# Outcomes of computations that can fail

A sequence of computations succeeds when each of them does, and it fails with the error of one of
them.

## Main results

* `Outcome.bind_eq_ok`, `Outcome.bind_eq_error` — one computation after another.
* `Outcome.mapM_eq_ok`, `Outcome.exists_of_mapM_eq_error` — a computation on each element of a list.
* `Outcome.exists_of_foldlM_eq_error` — a fold over a list.
* `Traced.mem_events_bind`, `Traced.mem_events_mapM` — where the events of a sequence come from.
-/

namespace ModelSchema

namespace Outcome

variable {ε α β : Type}

/-! ## Lists in the same order -/

/-- Elements in the same places stay related when it is added that those of the first list are in
it. -/
lemma forall₂_mem {R : α → β → Prop} {as : List α} {bs : List β} (h : List.Forall₂ R as bs) :
    List.Forall₂ (fun a b => a ∈ as ∧ R a b) as bs :=
  (List.forall₂_and_left (p := (· ∈ as)) _ _).2 ⟨fun _ ha => ha, h⟩

/-- The same list is made of two lists when the same is made of their elements. -/
lemma map_eq_map_iff_forall₂ {γ : Type} {f : α → γ} {g : β → γ} {as : List α} {bs : List β} :
    as.map f = bs.map g ↔ List.Forall₂ (fun a b => f a = g b) as bs := by
  rw [← List.forall₂_eq_eq_eq, List.forall₂_map_left_iff, List.forall₂_map_right_iff]

/-! ## Sequences of computations -/

/-- What follows a value goes on with it. -/
lemma ok_bind (a : α) (f : α → Except ε β) : Except.ok a >>= f = f a := rfl

/-- Nothing follows an error. -/
lemma error_bind (e : ε) (f : α → Except ε β) : Except.error e >>= f = .error e := rfl

/-- Two computations in a row succeed when the first one does and the second one does on its
value. -/
lemma bind_eq_ok {x : Except ε α} {f : α → Except ε β} {b : β} :
    x >>= f = .ok b ↔ ∃ a, x = .ok a ∧ f a = .ok b := by
  cases x <;> simp [bind, Except.bind]

/-- Two computations in a row fail with the error of the first one, or else with that of the
second. -/
lemma bind_eq_error {x : Except ε α} {f : α → Except ε β} {e : ε} :
    x >>= f = .error e ↔ x = .error e ∨ ∃ a, x = .ok a ∧ f a = .error e := by
  cases x <;> simp [bind, Except.bind]

/-- A function of a value is there when the value is. -/
lemma map_eq_ok {x : Except ε α} {f : α → β} {b : β} :
    f <$> x = .ok b ↔ ∃ a, x = .ok a ∧ f a = b := by
  cases x <;> simp [Functor.map, Except.map]

/-- A function of a value fails as the value does. -/
lemma map_eq_error {x : Except ε α} {f : α → β} {e : ε} :
    f <$> x = .error e ↔ x = .error e := by
  cases x <;> simp [Functor.map, Except.map]

/-- A function of a value is there exactly when the value is. -/
lemma exists_map_eq_ok {x : Except ε α} {f : α → β} :
    (∃ b, x.map f = .ok b) ↔ ∃ a, x = .ok a := by
  cases x <;> simp [Except.map]

/-- Computations that are the same on every element of a list are the same on the list. -/
lemma mapM_congr {f g : α → Except ε β} {as : List α} (h : ∀ a ∈ as, f a = g a) :
    as.mapM f = as.mapM g := by
  induction as with
  | nil => rfl
  | cons a as ih =>
    rw [List.forall_mem_cons] at h
    rw [List.mapM_cons, List.mapM_cons, h.1, ih h.2]

/-- A computation on each element succeeds when it succeeds on all of them, and its values are
theirs in order. -/
lemma mapM_eq_ok {f : α → Except ε β} {as : List α} {bs : List β} :
    as.mapM f = .ok bs ↔ List.Forall₂ (fun a b => f a = .ok b) as bs := by
  induction as generalizing bs with
  | nil => cases bs <;> simp [pure, Except.pure]
  | cons a as ih =>
    rw [List.mapM_cons, bind_eq_ok]
    constructor
    · rintro ⟨b, hb, h⟩
      obtain ⟨cs, hcs, h⟩ := bind_eq_ok.1 h
      cases h
      exact .cons hb (ih.1 hcs)
    · rintro (_ | ⟨hb, hcs⟩)
      exact ⟨_, hb, bind_eq_ok.2 ⟨_, ih.2 hcs, rfl⟩⟩

/-- A computation on each element succeeds when it succeeds on all of them. -/
lemma exists_mapM_eq_ok {f : α → Except ε β} {as : List α} :
    (∃ bs, as.mapM f = .ok bs) ↔ ∀ a ∈ as, ∃ b, f a = .ok b := by
  simp only [mapM_eq_ok]
  induction as with
  | nil => simp
  | cons a as ih =>
    rw [List.forall_mem_cons, ← ih]
    constructor
    · rintro ⟨_, _ | ⟨hb, hbs⟩⟩
      exact ⟨⟨_, hb⟩, ⟨_, hbs⟩⟩
    · rintro ⟨⟨b, hb⟩, ⟨bs, hbs⟩⟩
      exact ⟨b :: bs, .cons hb hbs⟩

/-- A computation on each element fails with the error of the first element on which it fails. -/
lemma exists_of_mapM_eq_error {f : α → Except ε β} {as : List α} {e : ε}
    (h : as.mapM f = .error e) :
    ∃ before a after, as = before ++ a :: after ∧ (∀ b ∈ before, ∃ c, f b = .ok c) ∧
      f a = .error e := by
  induction as with
  | nil => simp [pure, Except.pure] at h
  | cons a as ih =>
    rw [List.mapM_cons] at h
    rcases bind_eq_error.1 h with h | ⟨b, hb, h⟩
    · exact ⟨[], a, as, rfl, by simp, h⟩
    · rcases bind_eq_error.1 h with h | ⟨bs, _, h⟩
      · obtain ⟨before, a', after, rfl, hbefore, h⟩ := ih h
        exact ⟨a :: before, a', after, rfl, List.forall_mem_cons.2 ⟨⟨b, hb⟩, hbefore⟩, h⟩
      · cases h

/-- A computation on each element that fails does so on one of them. -/
lemma mem_of_mapM_eq_error {f : α → Except ε β} {as : List α} {e : ε} (h : as.mapM f = .error e) :
    ∃ a ∈ as, f a = .error e := by
  obtain ⟨before, a, after, rfl, -, h⟩ := exists_of_mapM_eq_error h
  exact ⟨a, by simp, h⟩

/-- A fold fails with the error of the first element at which it fails, and it gets through the
elements before. -/
lemma exists_of_foldlM_eq_error {f : β → α → Except ε β} {b : β} {as : List α} {e : ε}
    (h : as.foldlM f b = .error e) :
    ∃ before a after c, as = before ++ a :: after ∧ before.foldlM f b = .ok c ∧
      f c a = .error e := by
  induction as generalizing b with
  | nil => cases h
  | cons a as ih =>
    rcases bind_eq_error.1 h with h | ⟨b', hb', h⟩
    · exact ⟨[], a, as, b, rfl, rfl, h⟩
    · obtain ⟨before, a', after, c, rfl, hbefore, h⟩ := ih h
      exact ⟨a :: before, a', after, c, rfl, bind_eq_ok.2 ⟨b', hb', hbefore⟩, h⟩

/-- A check of each element passes when all of them pass. -/
lemma forM_eq_ok {f : α → Except ε Unit} {as : List α} :
    as.forM f = .ok () ↔ ∀ a ∈ as, f a = .ok () := by
  induction as with
  | nil => exact iff_of_true rfl (by simp)
  | cons a as ih =>
    rw [List.forall_mem_cons, ← ih]
    constructor
    · intro h
      obtain ⟨_, ha, has⟩ := bind_eq_ok.1 h
      exact ⟨ha, has⟩
    · rintro ⟨ha, has⟩
      exact bind_eq_ok.2 ⟨(), ha, has⟩

/-- A check of each element fails with the error of the first element that does not pass. -/
lemma forM_eq_error {f : α → Except ε Unit} {as : List α} {e : ε} :
    as.forM f = .error e ↔
      ∃ before a after, as = before ++ a :: after ∧ (∀ b ∈ before, f b = .ok ()) ∧
        f a = .error e := by
  induction as with
  | nil => exact iff_of_false nofun (by simp)
  | cons a as ih =>
    constructor
    · intro h
      rcases bind_eq_error.1 h with h | ⟨_, ha, h⟩
      · exact ⟨[], a, as, rfl, by simp, h⟩
      · obtain ⟨before, b, after, rfl, hbefore, hb⟩ := ih.1 h
        exact ⟨a :: before, b, after, rfl, List.forall_mem_cons.2 ⟨ha, hbefore⟩, hb⟩
    · rintro ⟨before, b, after, hsplit, hbefore, hb⟩
      cases before with
      | nil =>
        cases hsplit
        exact bind_eq_error.2 (.inl hb)
      | cons a before =>
        cases hsplit
        obtain ⟨ha, hbefore⟩ := List.forall_mem_cons.1 hbefore
        exact bind_eq_error.2 (.inr ⟨(), ha, ih.2 ⟨before, b, after, rfl, hbefore, hb⟩⟩)

end Outcome

namespace Traced

variable {α β : Type}

/-- A function of a value adds no event. -/
lemma events_map (x : Traced α) (f : α → β) : (f <$> x).events = x.events := by
  obtain ⟨events, e | a⟩ := x
  · rfl
  · exact List.append_nil events

/-- An event of two computations in a row is one of the first, or one of the second on the value of
the first. -/
lemma mem_events_bind {x : Traced α} {f : α → Traced β} {e : Event} (h : e ∈ (x >>= f).events) :
    e ∈ x.events ∨ ∃ a, x.outcome = .ok a ∧ e ∈ (f a).events := by
  obtain ⟨events, e' | a⟩ := x
  · exact .inl h
  · rcases List.mem_append.1 h with h | h
    · exact .inl h
    · exact .inr ⟨a, rfl, h⟩

/-- An event of a computation on each element is one of the computation on some element. -/
lemma mem_events_mapM {f : α → Traced β} {as : List α} {e : Event} (h : e ∈ (as.mapM f).events) :
    ∃ a ∈ as, e ∈ (f a).events := by
  induction as with
  | nil => simp at h
  | cons a as ih =>
    rw [List.mapM_cons] at h
    rcases mem_events_bind h with h | ⟨b, _, h⟩
    · exact ⟨a, by simp, h⟩
    · rcases mem_events_bind h with h | ⟨bs, _, h⟩
      · obtain ⟨a', ha', h⟩ := ih h
        exact ⟨a', by simp [ha'], h⟩
      · simp at h

end Traced

end ModelSchema
