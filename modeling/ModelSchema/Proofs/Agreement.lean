import ModelSchema.Proofs.Outcome

set_option autoImplicit false

/-!
# Outcomes that agree

Two computations agree when both succeed, with related values, or both fail, with related errors. A
sequence of computations agrees with another one when its parts do.

## Main definitions

* `Outcome.Agree` — two outcomes are related values or related errors.
* `Outcome.Keeps` — an outcome has the value of another one, and its error if errors are kept.
* `Outcome.bimap` — a function of the value and one of the error.

## Main results

* `Outcome.Agree.bind`, `Outcome.Agree.mapM`, `Outcome.Agree.foldlM` — one computation after
  another.
* `Outcome.bimap_bind` — a function of the outcome of two computations in a row.
* `Outcome.agree_of_bimap_eq` — outcomes of which the same is made agree.
-/

namespace ModelSchema.Outcome

variable {ε ε' α α' β β' : Type}

/-- Two outcomes are related values, or they are related errors. -/
inductive Agree (E : ε → ε' → Prop) (V : α → α' → Prop) : Except ε α → Except ε' α' → Prop where
  | ok {a : α} {a' : α'} (values : V a a') : Agree E V (.ok a) (.ok a')
  | error {e : ε} {e' : ε'} (errors : E e e') : Agree E V (.error e) (.error e')

namespace Agree

variable {E : ε → ε' → Prop} {V : α → α' → Prop} {W : β → β' → Prop}

/-- Related errors and values may be replaced by any that they entail. -/
lemma imp {E₁ : ε → ε' → Prop} {V₁ : α → α' → Prop} {x : Except ε α} {y : Except ε' α'}
    (h : Agree E V x y) (errors : ∀ e e', E e e' → E₁ e e') (values : ∀ a a', V a a' → V₁ a a') :
    Agree E₁ V₁ x y := by
  cases h with
  | ok hv => exact .ok (values _ _ hv)
  | error he => exact .error (errors _ _ he)

/-- Two computations in a row agree with two others when the first ones do, and the second ones do
on related values. -/
lemma bind {x : Except ε α} {y : Except ε' α'} {f : α → Except ε β} {g : α' → Except ε' β'}
    (h : Agree E V x y) (next : ∀ a a', V a a' → Agree E W (f a) (g a')) :
    Agree E W (x >>= f) (y >>= g) := by
  cases h with
  | ok hv => exact next _ _ hv
  | error he => exact .error he

/-- Functions of related values agree when their results are related. -/
lemma map {x : Except ε α} {y : Except ε' α'} {f : α → β} {g : α' → β'} (h : Agree E V x y)
    (values : ∀ a a', V a a' → W (f a) (g a')) : Agree E W (f <$> x) (g <$> y) := by
  cases h with
  | ok hv => exact .ok (values _ _ hv)
  | error he => exact .error he

/-- Computations on the elements of two lists agree when they do so on the elements in the same
places. -/
lemma mapM {R : α → α' → Prop} {f : α → Except ε β} {g : α' → Except ε' β'} {as : List α}
    {bs : List α'} (h : List.Forall₂ R as bs) (each : ∀ a b, R a b → Agree E W (f a) (g b)) :
    Agree E (List.Forall₂ W) (as.mapM f) (bs.mapM g) := by
  induction h with
  | nil => exact .ok .nil
  | cons first _ ih =>
    rw [List.mapM_cons, List.mapM_cons]
    exact (each _ _ first).bind fun _ _ hv => ih.bind fun _ _ hvs => .ok (.cons hv hvs)

/-- Folds over two lists agree when their steps do on related values. -/
lemma foldlM {R : α → α' → Prop} {f : β → α → Except ε β} {g : β' → α' → Except ε' β'} {as : List α}
    {bs : List α'} (h : List.Forall₂ R as bs)
    (step : ∀ b b' a a', W b b' → R a a' → Agree E W (f b a) (g b' a')) {b : β} {b' : β'}
    (start : W b b') : Agree E W (as.foldlM f b) (bs.foldlM g b') := by
  induction h generalizing b b' with
  | nil => exact .ok start
  | cons first _ ih =>
    rw [List.foldlM_cons, List.foldlM_cons]
    exact (step _ _ _ _ start first).bind fun _ _ hv => ih hv

/-- Checks of the elements of two lists agree when they do so on the elements in the same places. -/
lemma forM {R : α → α' → Prop} {f : α → Except ε Unit} {g : α' → Except ε' Unit} {as : List α}
    {bs : List α'} (h : List.Forall₂ R as bs) (each : ∀ a b, R a b → Agree E Eq (f a) (g b)) :
    Agree E Eq (as.forM f) (bs.forM g) := by
  induction h with
  | nil => exact .ok rfl
  | cons first _ ih => exact (each _ _ first).bind fun _ _ _ => ih

/-- Outcomes that agree on their values have the same value. -/
lemma ok_iff {x : Except ε α} {y : Except ε' α} (h : Agree E Eq x y) {a : α} :
    x = .ok a ↔ y = .ok a := by
  cases h with
  | ok hv => rw [hv, Except.ok.injEq, Except.ok.injEq]
  | error he => simp

end Agree

/-- The second outcome has the value of the first one, if that has one; and its error, if errors are
kept. -/
structure Keeps (errors : Prop) (x y : Except ε α) : Prop where
  value : ∀ a, x = .ok a → y = .ok a
  error : errors → ∀ e, x = .error e → y = .error e

namespace Keeps

variable {errors : Prop} {x y : Except ε α}

/-- An outcome keeps itself. -/
lemma of_eq (h : x = y) : Keeps errors x y where
  value a hx := by rw [← h, hx]
  error _ e hx := by rw [← h, hx]

/-- Where errors are kept, the outcomes are the same. -/
lemma eq (h : Keeps errors x y) (herrors : errors) : x = y := by
  cases x with
  | ok a => exact (h.value a rfl).symm
  | error e => exact (h.error herrors e rfl).symm

/-- Two computations in a row keep the outcome of two others when both do. -/
lemma bind {f g : α → Except ε β} (h : Keeps errors x y) (next : ∀ a, Keeps errors (f a) (g a)) :
    Keeps errors (x >>= f) (y >>= g) where
  value b hb := by
    obtain ⟨a, ha, hb⟩ := bind_eq_ok.1 hb
    exact bind_eq_ok.2 ⟨a, h.value a ha, (next a).value b hb⟩
  error herrors e he := by
    rcases bind_eq_error.1 he with he | ⟨a, ha, he⟩
    · exact bind_eq_error.2 (.inl (h.error herrors e he))
    · exact bind_eq_error.2 (.inr ⟨a, h.value a ha, (next a).error herrors e he⟩)

/-- A function of the value is kept along with it. -/
lemma map (f : α → β) (h : Keeps errors x y) : Keeps errors (f <$> x) (f <$> y) := by
  rw [← bind_pure_comp, ← bind_pure_comp]
  exact h.bind fun _ => .of_eq rfl

/-- Computations on the elements of a list keep the outcomes of those on other elements when each of
them does. -/
lemma mapM {γ : Type} {f : α → Except ε β} {g : γ → Except ε β} {r : α → γ} {as : List α}
    (each : ∀ a ∈ as, Keeps errors (f a) (g (r a))) :
    Keeps errors (as.mapM f) ((as.map r).mapM g) := by
  induction as with
  | nil => exact .of_eq rfl
  | cons a as ih =>
    obtain ⟨first, others⟩ := List.forall_mem_cons.1 each
    rw [List.map_cons, List.mapM_cons, List.mapM_cons]
    exact first.bind fun _ => (ih others).bind fun _ => .of_eq rfl

end Keeps

/-- The outcome with a function of the value, or a function of the error. -/
def bimap (g : ε → ε') (f : α → β) : Except ε α → Except ε' β
  | .ok a => .ok (f a)
  | .error e => .error (g e)

/-- A value takes the function for values. -/
@[simp]
lemma bimap_ok (g : ε → ε') (f : α → β) (a : α) : bimap g f (.ok a) = .ok (f a) := rfl

/-- An error takes the function for errors. -/
@[simp]
lemma bimap_error (g : ε → ε') (f : α → β) (e : ε) : bimap g f (.error e) = .error (g e) := rfl

/-- A function of the outcome of two computations in a row is two computations in a row with the
functions of their outcomes. -/
lemma bimap_bind {g : ε → ε'} {f : α → α'} {k : β → β'} {x : Except ε α} {next : α → Except ε β}
    {next' : α' → Except ε' β'} (h : ∀ a, bimap g k (next a) = next' (f a)) :
    bimap g k (x >>= next) = bimap g f x >>= next' := by
  cases x with
  | ok a => exact h a
  | error e => rfl

/-- Outcomes of which the same is made agree. -/
lemma agree_of_bimap_eq {ε₀ α₀ : Type} {g : ε → ε₀} {g' : ε' → ε₀} {f : α → α₀} {f' : α' → α₀}
    {x : Except ε α} {y : Except ε' α'} (h : bimap g f x = bimap g' f' y) :
    Agree (fun e e' => g e = g' e') (fun a a' => f a = f' a') x y := by
  cases x with
  | ok a =>
    cases y with
    | ok a' => exact .ok (Except.ok.inj h)
    | error e' => cases h
  | error e =>
    cases y with
    | ok a' => cases h
    | error e' => exact .error (Except.error.inj h)

end ModelSchema.Outcome
