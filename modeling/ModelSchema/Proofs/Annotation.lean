import Mathlib.Data.List.Induction
import ModelSchema.Catalog.Expansion
import ModelSchema.Proofs.Outcome

set_option autoImplicit false

/-!
# Fields and their decorators

Once its base is known, a field is settled by its own declaration. Whether that succeeds is a matter
of the decorators alone: each of them has to have the arguments that it admits, and the bounds that
the last ones of their names give may not be the wrong way round.

## Main definitions

* `Decorator.IsLegal` — a decorator has the arguments that it admits.
* `Field.IsSound` — all decorators of a field are legal, and its bounds are in order.
* `Field.settle` — the description of a field, given that of its base.
* `Field.base` — the description of a base, given what a reference is replaced by.

## Main results

* `Decorator.exists_annotation_iff` — a decorator says something, or has no meaning, exactly when it
  is legal.
* `Field.project_annotate` — the last decorator of a name decides what the decorators of that name
  say.
* `Field.exists_settle_iff` — a field is settled exactly when it is sound.
* `Field.settle_shape` — decorators do not touch what a field is made of.
* `Field.settle_error` — a field that is not settled has an illegal decorator or inverted bounds.
-/

namespace ModelSchema

/-! ## Single decorators -/

/-- The name of the decorators that say something of the same sort. -/
def Annotation.keyword : Annotation → String
  | .min _ => "min"
  | .max _ => "max"
  | .choices _ => "enum"
  | .hidden _ => "show"
  | .initial _ => "value"
  | .marked _ => "required"

namespace Decorator

/-- A decorator with a meaning has the arguments that it admits: a bound has one number, a
restriction has one value at least, a default has one value, and a switch has at most one argument,
a boolean. -/
structure IsLegal (decorator : Decorator) : Prop where
  bound : decorator.name ∈ ["min", "max"] → ∃ n, decorator.arguments = [.number n]
  choices : decorator.name = "enum" → decorator.arguments ≠ []
  value : decorator.name = "value" → ∃ v, decorator.arguments = [v]
  switch : decorator.name ∈ ["show", "required"] →
    decorator.arguments = [] ∨ ∃ b, decorator.arguments = [.bool b]

variable {decorator : Decorator}

/-- A bound is given by one number. -/
lemma bound_eq_ok {n : UInt64} : decorator.bound = .ok n ↔ decorator.arguments = [.number n] := by
  unfold bound
  split
  · next m h => simp [h]
  · next h => simpa using h n

/-- A switch is given by no argument or by one boolean. -/
lemma exists_switch_iff :
    (∃ b, decorator.switch = .ok b) ↔
      decorator.arguments = [] ∨ ∃ b, decorator.arguments = [.bool b] := by
  unfold switch
  split
  · next h => exact iff_of_true ⟨true, rfl⟩ (.inl h)
  · next b h => exact iff_of_true ⟨b, rfl⟩ (.inr ⟨b, h⟩)
  · next h₁ h₂ =>
    refine iff_of_false (fun ⟨b, h⟩ => by cases h) ?_
    rintro (h | ⟨b, h⟩)
    · exact h₁ h
    · exact h₂ b h

/-- A default is given by one argument. -/
lemma exists_value_iff : (∃ v, decorator.value = .ok v) ↔ ∃ v, decorator.arguments = [v] := by
  unfold value
  split
  · next v h => simp [h]
  · next h => simpa using h

/-- A restriction is given by one argument at least. -/
lemma exists_values_iff : (∃ vs, decorator.values = .ok vs) ↔ decorator.arguments ≠ [] := by
  unfold values
  split
  · next h => simp [h]
  · next h => simpa using h

/-- A decorator says something, or has no meaning, exactly when it is legal. -/
theorem exists_annotation_iff : (∃ a, decorator.annotation = .ok a) ↔ decorator.IsLegal := by
  have legal_iff : decorator.IsLegal ↔
      (decorator.name ∈ ["min", "max"] → ∃ n, decorator.arguments = [.number n]) ∧
      (decorator.name = "enum" → decorator.arguments ≠ []) ∧
      (decorator.name = "value" → ∃ v, decorator.arguments = [v]) ∧
      (decorator.name ∈ ["show", "required"] →
        decorator.arguments = [] ∨ ∃ b, decorator.arguments = [.bool b]) :=
    ⟨fun h => ⟨h.1, h.2, h.3, h.4⟩, fun h => ⟨h.1, h.2.1, h.2.2.1, h.2.2.2⟩⟩
  rw [legal_iff]
  unfold annotation
  split
  · next h => simp [Outcome.exists_map_eq_ok, bound_eq_ok, h]
  · next h => simp [Outcome.exists_map_eq_ok, bound_eq_ok, h]
  · next h => simp [Outcome.exists_map_eq_ok, exists_values_iff, h]
  · next h => rw [Outcome.exists_map_eq_ok, exists_switch_iff]; simp [h]
  · next h => simp [Outcome.exists_map_eq_ok, exists_value_iff, h]
  · next h => rw [Outcome.exists_map_eq_ok, exists_switch_iff]; simp [h]
  · next h₁ h₂ h₃ h₄ h₅ h₆ => simp_all

/-- The error of a bound asks for one number. -/
lemma bound_error {e : CompileError} (h : decorator.bound = .error e) :
    e = decorator.illegal .oneNumber := by
  unfold bound at h
  split at h <;> cases h
  rfl

/-- The error of a switch asks for a boolean at most. -/
lemma switch_error {e : CompileError} (h : decorator.switch = .error e) :
    e = decorator.illegal .oneFlag := by
  unfold switch at h
  split at h <;> cases h
  rfl

/-- The error of a default asks for one value. -/
lemma value_error {e : CompileError} (h : decorator.value = .error e) :
    e = decorator.illegal .oneValue := by
  unfold value at h
  split at h <;> cases h
  rfl

/-- The error of a restriction asks for one value at least. -/
lemma values_error {e : CompileError} (h : decorator.values = .error e) :
    e = decorator.illegal .someValues := by
  unfold values at h
  split at h <;> cases h
  rfl

/-- The error of an illegal decorator names the decorator and what it admits. -/
lemma annotation_error {e : CompileError} (h : decorator.annotation = .error e) :
    ∃ rule, e = decorator.illegal rule := by
  unfold annotation at h
  split at h
  · exact ⟨_, bound_error (Outcome.map_eq_error.1 h)⟩
  · exact ⟨_, bound_error (Outcome.map_eq_error.1 h)⟩
  · exact ⟨_, values_error (Outcome.map_eq_error.1 h)⟩
  · exact ⟨_, switch_error (Outcome.map_eq_error.1 h)⟩
  · exact ⟨_, value_error (Outcome.map_eq_error.1 h)⟩
  · exact ⟨_, switch_error (Outcome.map_eq_error.1 h)⟩
  · cases h

/-- A decorator says what its name stands for. -/
lemma name_eq_keyword {a : Annotation} (h : decorator.annotation = .ok (some a)) :
    decorator.name = a.keyword := by
  unfold annotation at h
  split at h
  case h_7 => cases h
  all_goals
    next hn =>
      obtain ⟨_, -, ha⟩ := Outcome.map_eq_ok.1 h
      cases ha
      exact hn

/-- The number that a bound is given. -/
def number? (decorator : Decorator) : Option UInt64 :=
  match decorator.arguments with
  | [.number n] => some n
  | _ => none

/-- The number of a decorator is its only argument. -/
lemma number?_eq_some {n : UInt64} :
    decorator.number? = some n ↔ decorator.arguments = [.number n] := by
  unfold number?
  split
  · next m h => simp [h]
  · next h => simpa using h n

/-- What a bound says is made of the number that it is given. -/
lemma exists_number?_of_bound {make : UInt64 → Annotation} {a : Option Annotation}
    (hbound : decorator.annotation = decorator.bound.map fun n => some (make n))
    (h : decorator.annotation = .ok a) : ∃ n, decorator.number? = some n ∧ a = some (make n) := by
  rw [hbound] at h
  obtain ⟨n, hb, rfl⟩ := Outcome.map_eq_ok.1 h
  exact ⟨n, number?_eq_some.2 (bound_eq_ok.1 hb), rfl⟩

end Decorator

/-! ## All decorators of a field -/

/-- The description of a field about which something further has been said, or nothing. -/
def FieldSchema.annotated (schema : FieldSchema) : Option Annotation → FieldSchema
  | some annotation => annotation.apply schema
  | none => schema

namespace Field

variable {field : Field} {schema result : FieldSchema}

/-- Without its trace, going over the decorators of a field is a fold over what they say. -/
lemma annotate_outcome (field : Field) (schema : FieldSchema) :
    (field.annotate schema).outcome =
      field.decorators.foldlM (fun s d => s.annotated <$> d.annotation) schema := by
  unfold annotate
  rw [Traced.outcome_foldlM]
  congr 1
  funext s d
  simp only [Traced.outcome_bind, Traced.outcome_lift]
  rcases d.annotation with e | _ | a <;> rfl

/-- What holds of a description and is kept by everything that a decorator can say, holds after the
decorators of a field. -/
lemma annotate_invariant {P : FieldSchema → Prop}
    (single : ∀ (s : FieldSchema) (d : Decorator) (a : Annotation), d.annotation = .ok (some a) →
        P s → P (a.apply s)) (start : P schema) (h : (field.annotate schema).outcome = .ok result) :
    P result := by
  rw [annotate_outcome] at h
  generalize field.decorators = ds at h
  induction ds generalizing schema with
  | nil =>
    cases h
    exact start
  | cons d ds ih =>
    obtain ⟨s, hs, h⟩ := Outcome.bind_eq_ok.1 h
    obtain ⟨a, ha, rfl⟩ := Outcome.map_eq_ok.1 hs
    refine ih ?_ h
    cases a with
    | none => exact start
    | some a => exact single schema d a ha start

/-- What every single annotation leaves alone, the decorators of a field leave alone. -/
lemma annotate_preserves {β : Type} (π : FieldSchema → β)
    (single : ∀ (s : FieldSchema) (a : Annotation), π (a.apply s) = π s)
    (h : (field.annotate schema).outcome = .ok result) : π result = π schema :=
  annotate_invariant (P := fun s => π s = π schema) (fun s _ a _ hs => (single s a).trans hs) rfl h

/-- The last decorator of a name on a field. -/
def last? (field : Field) (name : String) : Option Decorator :=
  (field.decorators.filter fun d => d.name == name).getLast?

/-- The last decorator of a name decides what the decorators of that name say.

**Proof sketch.** Induction on the decorators from the end. If the last one of all has the name, it
decides; otherwise it leaves alone what the decorators before it have made of the field. -/
lemma project_annotate {β : Type} (π : FieldSchema → β) (name : String) (meaning : Decorator → β)
    (own : ∀ (s : FieldSchema) (d : Decorator) (a : Option Annotation),
      d.name = name → d.annotation = .ok a → π (s.annotated a) = meaning d)
    (other : ∀ (s : FieldSchema) (d : Decorator) (a : Option Annotation),
      d.name ≠ name → d.annotation = .ok a → π (s.annotated a) = π s)
    (h : (field.annotate schema).outcome = .ok result) :
    π result = ((field.last? name).map meaning).getD (π schema) := by
  rw [annotate_outcome] at h
  unfold last?
  generalize field.decorators = ds at h ⊢
  induction ds using List.reverseRecOn generalizing result with
  | nil => cases h; rfl
  | append_singleton ds d ih =>
    rw [List.foldlM_append] at h
    obtain ⟨s, hs, h⟩ := Outcome.bind_eq_ok.1 h
    obtain ⟨r, hr, h⟩ := Outcome.bind_eq_ok.1 h
    obtain ⟨a, ha, rfl⟩ := Outcome.map_eq_ok.1 hr
    cases h
    rw [List.filter_append]
    by_cases hn : d.name = name
    · rw [own s d a hn ha]
      simp [hn]
    · rw [other s d a hn ha, ih hs]
      simp [hn]

/-- The decorators of a field can be gone over exactly when all of them are legal. -/
lemma exists_annotate_iff :
    (∃ result, (field.annotate schema).outcome = .ok result) ↔
      ∀ d ∈ field.decorators, d.IsLegal := by
  simp only [annotate_outcome, ← Decorator.exists_annotation_iff]
  generalize field.decorators = ds
  induction ds generalizing schema with
  | nil => exact iff_of_true ⟨_, rfl⟩ (by simp)
  | cons d ds ih =>
    rw [List.forall_mem_cons]
    constructor
    · rintro ⟨result, h⟩
      obtain ⟨s, hs, h⟩ := Outcome.bind_eq_ok.1 h
      obtain ⟨a, ha, -⟩ := Outcome.map_eq_ok.1 hs
      exact ⟨⟨a, ha⟩, ih.1 ⟨result, h⟩⟩
    · rintro ⟨⟨a, ha⟩, hds⟩
      obtain ⟨result, h⟩ := (@ih (schema.annotated a)).2 hds
      exact ⟨result, Outcome.bind_eq_ok.2 ⟨_, Outcome.map_eq_ok.2 ⟨a, ha, rfl⟩, h⟩⟩

/-- Decorators that cannot be gone over include an illegal one, and the error names it. -/
lemma annotate_error {e : CompileError} (h : (field.annotate schema).outcome = .error e) :
    ∃ d ∈ field.decorators, ¬ d.IsLegal ∧ ∃ rule, e = d.illegal rule := by
  rw [annotate_outcome] at h
  obtain ⟨before, d, after, s, hds, -, h⟩ := Outcome.exists_of_foldlM_eq_error h
  have hd := Outcome.map_eq_error.1 h
  refine ⟨d, by simp [hds], fun hlegal => ?_, Decorator.annotation_error hd⟩
  obtain ⟨a, ha⟩ := Decorator.exists_annotation_iff.2 hlegal
  rw [hd] at ha
  cases ha

/-! ## Bounds -/

/-- A bound of a field is the number of its last decorator for it. -/
lemma bound_of_annotate (π : FieldSchema → Option UInt64) (name : String)
    (make : UInt64 → Annotation)
    (meaning : ∀ d : Decorator, d.name = name → d.annotation = d.bound.map fun n => some (make n))
    (own : ∀ (s : FieldSchema) (n : UInt64), π ((make n).apply s) = some n)
    (other : ∀ (s : FieldSchema) (a : Annotation), a.keyword ≠ name → π (a.apply s) = π s)
    (h : (field.annotate schema).outcome = .ok result) :
    π result = ((field.last? name).map Decorator.number?).getD (π schema) := by
  refine project_annotate π name Decorator.number? ?_ ?_ h
  · intro s d a hn ha
    obtain ⟨n, hd, rfl⟩ := Decorator.exists_number?_of_bound (meaning d hn) ha
    exact (own s n).trans hd.symm
  · rintro s d (_ | a) hn ha
    · rfl
    · rw [Decorator.name_eq_keyword ha] at hn
      exact other s a hn

/-- The lower bound of a field is the number of its last decorator for it. -/
lemma min_of_annotate (h : (field.annotate schema).outcome = .ok result) :
    result.min = ((field.last? "min").map Decorator.number?).getD schema.min := by
  refine bound_of_annotate (·.min) "min" .min (fun d hn => ?_) (fun _ _ => rfl) (fun s a hn => ?_) h
  · unfold Decorator.annotation
    simp only [hn]
  · cases a <;> first | rfl | exact absurd rfl hn

/-- The upper bound of a field is the number of its last decorator for it. -/
lemma max_of_annotate (h : (field.annotate schema).outcome = .ok result) :
    result.max = ((field.last? "max").map Decorator.number?).getD schema.max := by
  refine bound_of_annotate (·.max) "max" .max (fun d hn => ?_) (fun _ _ => rfl) (fun s a hn => ?_) h
  · unfold Decorator.annotation
    simp only [hn]
  · cases a <;> first | rfl | exact absurd rfl hn

/-- The bounds that the decorators of a field leave behind are in order when the numbers of its last
decorators for them are. -/
lemma inOrder_iff_of_annotate (hmin : schema.min = none) (hmax : schema.max = none)
    (h : (field.annotate schema).outcome = .ok result) :
    (∀ lo hi, result.min = some lo → result.max = some hi → lo ≤ hi) ↔
      ∀ lower upper lo hi, field.last? "min" = some lower → lower.arguments = [.number lo] →
        field.last? "max" = some upper → upper.arguments = [.number hi] → lo ≤ hi := by
  rw [min_of_annotate h, max_of_annotate h, hmin, hmax]
  simp only [← Decorator.number?_eq_some]
  constructor
  · intro h lower upper lo hi hlower hlo hupper hhi
    exact h lo hi (by simp [hlower, hlo]) (by simp [hupper, hhi])
  · intro h lo hi hlo hhi
    -- there were no bounds before, so each of them comes from a decorator
    rcases hlower : field.last? "min" with _ | lower
    · simp [hlower] at hlo
    rcases hupper : field.last? "max" with _ | upper
    · simp [hupper] at hhi
    rw [hlower] at hlo
    rw [hupper] at hhi
    exact h lower upper lo hi hlower hlo hupper hhi

/-- A description passes the rule for bounds when it has no two bounds the wrong way round. -/
lemma checkBounds_eq_ok :
    field.checkBounds schema = .ok result ↔
      result = schema ∧ ∀ lo hi, schema.min = some lo → schema.max = some hi → lo ≤ hi := by
  unfold checkBounds
  split
  · next lo hi hlo hhi =>
    split
    · next h => simpa [hlo, hhi] using fun _ => h
    · next h => simp [hlo, hhi, UInt64.not_lt.1 h, eq_comm]
  · next h =>
    constructor
    · rintro ⟨⟩
      exact ⟨rfl, fun lo hi hlo hhi => (h lo hi hlo hhi).elim⟩
    · rintro ⟨rfl, -⟩
      rfl

/-- Bounds are refused when both are there and the upper one is the lower. -/
lemma checkBounds_eq_error {e : CompileError} (h : field.checkBounds schema = .error e) :
    ∃ lo hi, schema.min = some lo ∧ schema.max = some hi ∧ hi < lo ∧
      e = .invertedBounds field.name lo hi field.position := by
  unfold checkBounds at h
  split at h
  · next lo hi hlo hhi =>
    split at h
    · next hlt => cases h; exact ⟨lo, hi, hlo, hhi, hlt, rfl⟩
    · cases h
  · cases h

/-! ## Settled fields -/

/-- All decorators of a field are legal, and the last lower bound is not above the last upper
bound. -/
structure IsSound (field : Field) : Prop where
  legal : ∀ decorator ∈ field.decorators, decorator.IsLegal
  inOrder : ∀ lower upper lo hi, field.last? "min" = some lower → lower.arguments = [.number lo] →
    field.last? "max" = some upper → upper.arguments = [.number hi] → lo ≤ hi

/-- The description of a field, given that of its base. -/
def settle (field : Field) (base : FieldSchema) : Except CompileError FieldSchema :=
  (field.annotate (field.describe base)).outcome >>= field.checkBounds

/-- The description of the base of a field, given what a reference is replaced by. -/
def base (field : Field) (reference : String → Except CompileError Schema) :
    Except CompileError FieldSchema :=
  match field.type.base with
  | .primitive kind => .ok (.ofKind kind)
  | .model name => .ofObject <$> reference name

/-- The outcome of expanding a field: its base first, and then the field is settled. -/
lemma expand_outcome (field : Field) (reference : String → Traced Schema) :
    (field.expand reference).outcome =
      field.base (fun name => (reference name).outcome) >>= field.settle := by
  unfold expand settle base
  cases field.type.base with
  | primitive kind =>
    simp only [Traced.outcome_bind, Traced.outcome_lift, Traced.outcome_pure]
    rfl
  | model name => simp only [Traced.outcome_bind, Traced.outcome_lift, Traced.outcome_map]

variable {base : FieldSchema}

/-- The base of a field has no bounds of its own. -/
lemma bounds_of_base {reference : String → Except CompileError Schema}
    (h : field.base reference = .ok base) : base.min = none ∧ base.max = none := by
  unfold Field.base at h
  split at h
  · cases h
    exact ⟨rfl, rfl⟩
  · obtain ⟨schema, -, rfl⟩ := Outcome.map_eq_ok.1 h
    exact ⟨rfl, rfl⟩

/-- A field is settled exactly when it is sound, provided that its base has no bounds of its own. -/
theorem exists_settle_iff (hmin : base.min = none) (hmax : base.max = none) :
    (∃ result, field.settle base = .ok result) ↔ field.IsSound := by
  have dmin : (field.describe base).min = none := by
    unfold describe; split <;> simp [hmin, FieldSchema.ofArray]
  have dmax : (field.describe base).max = none := by
    unfold describe; split <;> simp [hmax, FieldSchema.ofArray]
  constructor
  · rintro ⟨result, h⟩
    obtain ⟨schema, hs, h⟩ := Outcome.bind_eq_ok.1 h
    have inOrder := (checkBounds_eq_ok.1 h).2
    exact ⟨exists_annotate_iff.1 ⟨schema, hs⟩, (inOrder_iff_of_annotate dmin dmax hs).1 inOrder⟩
  · rintro ⟨legal, inOrder⟩
    obtain ⟨schema, hs⟩ := exists_annotate_iff.2 legal
    have hbounds : field.checkBounds schema = .ok schema :=
      checkBounds_eq_ok.2 ⟨rfl, (inOrder_iff_of_annotate dmin dmax hs).2 inOrder⟩
    exact ⟨schema, Outcome.bind_eq_ok.2 ⟨schema, hs, hbounds⟩⟩

/-- Decorators do not touch what a field is made of. -/
theorem settle_shape (h : field.settle base = .ok result) :
    result.kind = (field.describe base).kind ∧ result.required = (field.describe base).required ∧
      result.nullable = (field.describe base).nullable ∧ result.item = (field.describe base).item ∧
        result.fields = (field.describe base).fields := by
  obtain ⟨schema, hs, h⟩ := Outcome.bind_eq_ok.1 h
  obtain ⟨rfl, -⟩ := checkBounds_eq_ok.1 h
  have keeps {β : Type} (π : FieldSchema → β)
      (single : ∀ (s : FieldSchema) (a : Annotation), π (a.apply s) = π s) :
      π result = π (field.describe base) :=
    annotate_preserves π single hs
  refine ⟨keeps _ ?_, keeps _ ?_, keeps _ ?_, keeps _ ?_, keeps _ ?_⟩ <;>
    · rintro s (_ | _) <;> rfl

/-- A field that is not settled has an illegal decorator or inverted bounds, and the error says
which. -/
theorem settle_error {e : CompileError} (h : field.settle base = .error e) :
    (∃ d ∈ field.decorators, ¬ d.IsLegal ∧ ∃ rule, e = d.illegal rule) ∨
      ∃ lo hi, hi < lo ∧ e = .invertedBounds field.name lo hi field.position := by
  rcases Outcome.bind_eq_error.1 h with h | ⟨schema, -, h⟩
  · exact .inl (annotate_error h)
  · obtain ⟨lo, hi, -, -, hlt, he⟩ := checkBounds_eq_error h
    exact .inr ⟨lo, hi, hlt, he⟩

/-- The inverted bounds of a field that is not sound are the numbers of its last decorators for
them.

**Proof sketch.** All decorators are legal, so the last ones for the bounds are there and are the
wrong way round, and they decide the bounds, whatever the base has. -/
lemma exists_last?_of_settle_error {name : String} {lo hi : UInt64} {position : Position}
    (hunsound : ¬ field.IsSound)
    (h : field.settle base = .error (.invertedBounds name lo hi position)) :
    ∃ lower upper, field.last? "min" = some lower ∧ lower.arguments = [.number lo] ∧
      field.last? "max" = some upper ∧ upper.arguments = [.number hi] := by
  rcases Outcome.bind_eq_error.1 h with h | ⟨schema, hs, h⟩
  · obtain ⟨_, _, _, _, ⟨⟩⟩ := annotate_error h
  obtain ⟨lo, hi, hlo, hhi, -, he⟩ := checkBounds_eq_error h
  cases he
  have hlegal := exists_annotate_iff.1 ⟨schema, hs⟩
  have hinverted : ¬ ∀ lower upper lo hi,
      field.last? "min" = some lower → lower.arguments = [.number lo] →
      field.last? "max" = some upper → upper.arguments = [.number hi] → lo ≤ hi :=
    fun inOrder => hunsound ⟨hlegal, inOrder⟩
  push Not at hinverted
  obtain ⟨lower, upper, lo', hi', hlower, hlo', hupper, hhi', -⟩ := hinverted
  have hmin := min_of_annotate hs
  have hmax := max_of_annotate hs
  rw [hlo, hlower, Option.map_some, Option.getD_some, Decorator.number?_eq_some.2 hlo'] at hmin
  rw [hhi, hupper, Option.map_some, Option.getD_some, Decorator.number?_eq_some.2 hhi'] at hmax
  cases hmin
  cases hmax
  exact ⟨lower, upper, hlower, hlo', hupper, hhi'⟩

end Field

end ModelSchema
