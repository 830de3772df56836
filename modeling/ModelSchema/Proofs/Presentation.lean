import ModelSchema.Proofs.Fitting
import ModelSchema.TypeScript.Printer

set_option autoImplicit false

/-!
# What does not show

What is only said about the form of a field has no influence on types and on samples. A sample
depends on even less: that a value may be null is not looked at, nor are bounds of anything but
texts, numbers and arrays, and the element of an array is always there.

## Main definitions

* `FieldSchema.changed`, `membersChanged` — a change of every description at every depth.
* `Unseen` — a change of single descriptions that a view of them does not show.
* `FieldSchema.withoutForm`, `Schema.withoutForm` — without what is said about forms.
* `FieldSchema.sampled`, `Schema.sampled` — with no more than what a sample depends on.

## Main results

* `FieldSchema.typeExpr_changed`, `FieldSchema.sample_changed` — a change that leaves the type, or
  the samples, of every single description alone does so at every depth.
* `Schema.form_has_no_influence` — types and samples of schemas that differ in their forms only, and
  samples of schemas that differ in what is not looked at.
-/

namespace ModelSchema

open TypeScript

/-! ## Changes at every depth -/

section Change

variable (change element : FieldSchema → FieldSchema)

mutual

/-- A field after a change of every description in it, at every depth. The description of an element
is changed further. -/
def FieldSchema.changed : FieldSchema → FieldSchema
  | { kind, required, min, max, choices, item, fields, nullable, hidden, marked, initial } =>
    change
      { kind, required, min, max, choices, nullable, hidden, marked, initial
        item := itemChanged item
        fields := fieldsChanged fields }

/-- An element after the change. -/
def itemChanged : Option FieldSchema → Option FieldSchema
  | none => none
  | some item => some (element item.changed)

/-- The members of an object, if they are described, after the change. -/
def fieldsChanged : Option (List (String × FieldSchema)) → Option (List (String × FieldSchema))
  | none => none
  | some fields => some (membersChanged fields)

/-- Members after the change. -/
def membersChanged : List (String × FieldSchema) → List (String × FieldSchema)
  | [] => []
  | (name, field) :: fields => (name, field.changed) :: membersChanged fields

end

/-- A change of single descriptions, and of those of elements, that a view of them does not show.
Whether a field has to be there is no part of the view and stays the same, except for elements. -/
structure Unseen {β : Type} (view : FieldSchema → β) : Prop where
  required : ∀ field, (change field).required = field.required
  change : ∀ field, view (change field) = view field
  element : ∀ field, view (element field) = view field

variable {change element}

/-- A change that is not seen leaves alone whether a field is required. -/
lemma Unseen.required_changed {β : Type} {view : FieldSchema → β} (h : Unseen change element view)
    (field : FieldSchema) : (field.changed change element).required = field.required := by
  cases field
  exact h.required _

mutual

/-- A change that the types of single descriptions do not show is not shown by those of the
descriptions at every depth. -/
lemma FieldSchema.typeExpr_changed (h : Unseen change element FieldSchema.typeExpr) :
    (field : FieldSchema) → (field.changed change element).typeExpr = field.typeExpr
  | { kind, required, min, max, choices, item, fields, nullable, hidden, marked, initial } => by
    rw [FieldSchema.changed, h.change]
    unfold FieldSchema.typeExpr
    rw [itemType_changed h item, fieldsType_changed h fields]

/-- The type of an element does not show such a change. -/
lemma itemType_changed (h : Unseen change element FieldSchema.typeExpr) :
    (item : Option FieldSchema) → itemType (itemChanged change element item) = itemType item
  | none => rfl
  | some item => (h.element _).trans (item.typeExpr_changed h)

/-- The type of an object does not show such a change. -/
lemma fieldsType_changed (h : Unseen change element FieldSchema.typeExpr) :
    (fields : Option (List (String × FieldSchema))) →
      fieldsType (fieldsChanged change element fields) = fieldsType fields
  | none => rfl
  | some fields => congrArg TypeExpr.object (memberTypes_changed h fields)

/-- The types of members do not show such a change. -/
lemma memberTypes_changed (h : Unseen change element FieldSchema.typeExpr) :
    (fields : List (String × FieldSchema)) →
    memberTypes (membersChanged change element fields) = memberTypes fields
  | [] => rfl
  | (name, field) :: fields => by
    rw [membersChanged, memberTypes, memberTypes, h.required_changed, field.typeExpr_changed h,
      memberTypes_changed h fields]

end

variable {sampler : Sampler}

mutual

/-- A change that the samples of single descriptions do not show is not shown by those of the
descriptions at every depth: neither by the values nor by the words that are left. -/
lemma FieldSchema.sample_changed (h : Unseen change element (FieldSchema.sample sampler)) :
    (field : FieldSchema) → (field.changed change element).sample sampler = field.sample sampler
  | { kind, required, min, max, choices, item, fields, nullable, hidden, marked, initial } => by
    rw [FieldSchema.changed, h.change]
    unfold FieldSchema.sample
    rw [itemSample_changed h item, fieldsSample_changed h fields]

/-- The samples of an element do not show such a change. -/
lemma itemSample_changed (h : Unseen change element (FieldSchema.sample sampler)) :
    (item : Option FieldSchema) →
    itemSample sampler (itemChanged change element item) = itemSample sampler item
  | none => rfl
  | some item => (h.element _).trans (item.sample_changed h)

/-- The samples of an object do not show such a change. -/
lemma fieldsSample_changed (h : Unseen change element (FieldSchema.sample sampler)) :
    (fields : Option (List (String × FieldSchema))) →
      fieldsSample sampler (fieldsChanged change element fields) = fieldsSample sampler fields
  | none => rfl
  | some fields => by rw [fieldsChanged, fieldsSample, fieldsSample, membersSample_changed h fields]

/-- The samples of members do not show such a change. -/
lemma membersSample_changed (h : Unseen change element (FieldSchema.sample sampler)) :
    (fields : List (String × FieldSchema)) →
      membersSample sampler (membersChanged change element fields) = membersSample sampler fields
  | [] => rfl
  | (name, field) :: fields => by
    rw [membersChanged, membersSample_cons, membersSample_cons, h.required_changed,
      field.sample_changed h, membersSample_changed h fields]

end

end Change

/-! ## Forms -/

namespace FieldSchema

/-- A single description without what is said about its form. -/
def withoutHints (field : FieldSchema) : FieldSchema :=
  { field with hidden := false, marked := false, initial := none }

/-- Types do not show what is said about the form. -/
lemma unseen_typeExpr_withoutHints : Unseen withoutHints id typeExpr where
  required _ := rfl
  change field := by cases field; rfl
  element _ := rfl

/-- Samples do not show what is said about the form. -/
lemma unseen_sample_withoutHints (sampler : Sampler) : Unseen withoutHints id (sample sampler) where
  required _ := rfl
  change field := by cases field; rfl
  element _ := rfl

/-- A field without what is said about its form, at every depth. -/
def withoutForm (field : FieldSchema) : FieldSchema :=
  field.changed withoutHints id

end FieldSchema

/-- A schema without what is said about forms, at every depth. -/
def Schema.withoutForm (schema : Schema) : Schema :=
  membersChanged FieldSchema.withoutHints id schema

/-! ## What a sample depends on -/

namespace FieldSchema

/-- A single description without bounds that are not looked at and without what is said about null
and about its form. -/
def withoutUnsampled (field : FieldSchema) : FieldSchema :=
  { field.withoutHints with
    nullable := false
    min := if field.kind ∈ [.string, .number, .array] then field.min else none
    max := if field.kind ∈ [.string, .number, .array] then field.max else none }

/-- A single description of something that need not be there. -/
def optional (field : FieldSchema) : FieldSchema :=
  { field with required := false }

/-- The samples of a description that is restricted to literals are these, and those of any other
one depend on the bounds for three kinds only. -/
lemma unseen_sample_withoutUnsampled (sampler : Sampler) :
    Unseen withoutUnsampled optional (sample sampler) where
  required _ := rfl
  change field := by
    obtain ⟨kind, required, min, max, _ | _ | _, item, fields, nullable, hidden, marked, initial⟩ :=
      field
    all_goals cases kind <;> rfl
  element field := by cases field; rfl

/-- What the samples of a field depend on, at every depth. An element is always there. -/
def sampled (field : FieldSchema) : FieldSchema :=
  field.changed withoutUnsampled optional

end FieldSchema

/-- What the samples of a schema depend on, at every depth. -/
def Schema.sampled (schema : Schema) : Schema :=
  membersChanged FieldSchema.withoutUnsampled FieldSchema.optional schema

/-! ## Two runs -/

section TwoRuns

variable {change element : FieldSchema → FieldSchema} {field other : FieldSchema}
    {schema another : Schema}

/-- Fields after the same change have the same type, if types do not show the change. -/
lemma FieldSchema.typeExpr_eq_of_changed (unseen : Unseen change element typeExpr)
    (h : field.changed change element = other.changed change element) :
    field.typeExpr = other.typeExpr := by
  rw [← field.typeExpr_changed unseen, h, other.typeExpr_changed unseen]

/-- Schemas after the same change have the same type, if types do not show the change. -/
lemma Schema.typeExpr_eq_of_changed (unseen : Unseen change element FieldSchema.typeExpr)
    (h : membersChanged change element schema = membersChanged change element another) :
    schema.typeExpr = another.typeExpr := by
  rw [typeExpr, ← memberTypes_changed unseen, h, memberTypes_changed unseen, typeExpr]

/-- Fields after the same change have the same samples, and the draws take the same words, if
samples do not show the change. -/
lemma FieldSchema.sample_eq_of_changed (unseen : ∀ sampler, Unseen change element (sample sampler))
    (h : field.changed change element = other.changed change element) (sampler : Sampler) :
    field.sample sampler = other.sample sampler := by
  rw [← field.sample_changed (unseen sampler), h, other.sample_changed (unseen sampler)]

/-- Schemas after the same change have the same samples, and the draws take the same words, if
samples do not show the change. -/
lemma Schema.samples_eq_of_changed
    (unseen : ∀ sampler, Unseen change element (FieldSchema.sample sampler))
    (h : membersChanged change element schema = membersChanged change element another)
    (sampler : Sampler) (count : ℕ) :
    schema.samples sampler count = another.samples sampler count := by
  have hmembers : membersSample sampler schema = membersSample sampler another := by
    rw [← membersSample_changed (unseen sampler), h, membersSample_changed (unseen sampler)]
  rw [samples, sample, hmembers, samples, sample]

end TwoRuns

/-- **What is said about forms shows neither in types nor in samples.** Fields and schemas that
differ in it only, at any depth, have the same types and declarations, whatever the options are; and
the same samples are drawn from the same words, of which the same are left, or the draws fail alike.
Samples do not even show whether a value may be null, whether an element has to be there, and what
the bounds are of anything but texts, numbers and arrays.

**Proof sketch.** What is said about the form of a single description is not looked at, and what is
made of a description is made of its attributes and of what is made of the descriptions in it. -/
theorem Schema.form_has_no_influence :
    (∀ field other : FieldSchema, field.withoutForm = other.withoutForm →
      (∀ options level, field.renderType options level = other.renderType options level) ∧
      ∀ sampler words, field.sample sampler words = other.sample sampler words) ∧
    (∀ schema other : Schema, schema.withoutForm = other.withoutForm →
      (∀ options style name,
        schema.declaration options style name = other.declaration options style name) ∧
      (∀ options level, schema.renderObject options level = other.renderObject options level) ∧
      ∀ sampler count words,
        schema.samples sampler count words = other.samples sampler count words) ∧
    (∀ field other : FieldSchema, field.sampled = other.sampled →
      ∀ sampler words, field.sample sampler words = other.sample sampler words) ∧
    ∀ schema other : Schema, schema.sampled = other.sampled →
      ∀ sampler count words,
        schema.samples sampler count words = other.samples sampler count words := by
  refine ⟨fun field other h => ?_, fun schema other h => ?_, fun field other h sampler words => ?_,
    fun schema other h sampler count words => ?_⟩
  · have htype := FieldSchema.typeExpr_eq_of_changed FieldSchema.unseen_typeExpr_withoutHints h
    refine ⟨fun options level => ?_, fun sampler words => ?_⟩
    · rw [FieldSchema.renderType, htype, FieldSchema.renderType]
    · rw [FieldSchema.sample_eq_of_changed FieldSchema.unseen_sample_withoutHints h]
  · have htype := typeExpr_eq_of_changed FieldSchema.unseen_typeExpr_withoutHints h
    refine ⟨fun options style name => ?_, fun options level => ?_, fun sampler count words => ?_⟩
    · rw [declaration, htype, declaration]
    · rw [renderObject, htype, renderObject]
    · rw [samples_eq_of_changed FieldSchema.unseen_sample_withoutHints h]
  · rw [FieldSchema.sample_eq_of_changed FieldSchema.unseen_sample_withoutUnsampled h]
  · rw [samples_eq_of_changed FieldSchema.unseen_sample_withoutUnsampled h]

namespace Enrolment

/-- The members of a person as a form shows them. -/
def shown : Schema :=
  [("nick", { kind := .string, marked := true, initial := some (.string "Al") }),
    ("marks",
      .ofArray (.ofObject [("passed", { kind := .boolean, required := true, hidden := true })]))]

/-- The same members, without anything about the form. -/
def plain : Schema :=
  [("nick", { kind := .string }),
    ("marks", .ofArray (.ofObject [("passed", { kind := .boolean, required := true })]))]

/-- The same members, of which some may be null and others have bounds without an effect. -/
def loose : Schema :=
  [("nick", { kind := .string, nullable := true }),
    ("marks",
      .ofArray
        { FieldSchema.ofObject [("passed", { kind := .boolean, required := true, min := some 7 })]
          with required := true, nullable := true, max := some 0 })]

end Enrolment

/-- Schemas that differ in the forms of members at several depths, and one that differs in what
samples do not show. -/
theorem Schema.form_has_no_influence_enrolment :
    Enrolment.shown.withoutForm = Enrolment.plain.withoutForm ∧
      Enrolment.plain.sampled = Enrolment.loose.sampled ∧
      Enrolment.shown.declaration {} .interface "Person" =
        Enrolment.plain.declaration {} .interface "Person" ∧
      ∀ words, Enrolment.shown.samples ⟨default, .epoch⟩ 3 words =
        Enrolment.loose.samples ⟨default, .epoch⟩ 3 words := by
  obtain ⟨-, forms, -, samples⟩ := form_has_no_influence
  have hforms : Enrolment.shown.withoutForm = Enrolment.plain.withoutForm := rfl
  have hsampled : Enrolment.plain.sampled = Enrolment.loose.sampled := rfl
  obtain ⟨hdeclarations, -, hsamples⟩ := forms _ _ hforms
  exact ⟨hforms, hsampled, hdeclarations {} .interface "Person", fun words =>
    (hsamples _ 3 words).trans (samples _ _ hsampled _ 3 words)⟩

end ModelSchema
