import Mathlib.Data.List.Basic
import ModelSchema.Schema.Basic

set_option autoImplicit false

/-!
# Fields inside fields

A description of a field is a tree: the description of an element and those of the members stand
inside it.

## Main definitions

* `FieldSchema.Contains` — one description stands inside another one, at any depth.
* `FieldSchema.Everywhere` — a property of a description and of all that stand inside it.

## Main results

* `FieldSchema.induction` — induction over descriptions.
* `FieldSchema.everywhere_iff` — what holds everywhere holds here, in the element and in the
  members.
* `FieldSchema.everywhere_ofObject`, `FieldSchema.everywhere_ofArray` — the same for plain objects
  and arrays.
-/

namespace ModelSchema

namespace FieldSchema

/-- A description stands inside another one: it is that one itself, or it stands inside the
description of an element or of a member. -/
inductive Contains : FieldSchema → FieldSchema → Prop where
  | refl (field : FieldSchema) : Contains field field
  | item {field item inner : FieldSchema} (described : field.item = some item)
      (inside : Contains item inner) : Contains field inner
  | member {field inner : FieldSchema} {fields : List (String × FieldSchema)}
      {member : String × FieldSchema} (described : field.fields = some fields)
      (mem : member ∈ fields) (inside : Contains member.2 inner) : Contains field inner

/-- The element of a field is smaller than the field. -/
lemma sizeOf_item_lt {field item : FieldSchema} (h : field.item = some item) :
    sizeOf item < sizeOf field := by
  cases field
  cases h
  simp only [mk.sizeOf_spec, Option.some.sizeOf_spec]
  omega

/-- A member of a field is smaller than the field. -/
lemma sizeOf_member_lt {field : FieldSchema} {fields : List (String × FieldSchema)}
    {member : String × FieldSchema} (h : field.fields = some fields) (hm : member ∈ fields) :
    sizeOf member.2 < sizeOf field := by
  have hlt := List.sizeOf_lt_of_mem hm
  cases field
  cases h
  obtain ⟨name, inner⟩ := member
  simp only [mk.sizeOf_spec, Option.some.sizeOf_spec, Prod.mk.sizeOf_spec] at hlt ⊢
  omega

/-- Induction over descriptions: a statement holds of a description when it holds of that of an
element and of those of the members. -/
theorem induction {motive : FieldSchema → Prop}
    (step : ∀ field : FieldSchema, (∀ item, field.item = some item → motive item) →
      (∀ fields, field.fields = some fields → ∀ member ∈ fields, motive member.2) → motive field)
    (field : FieldSchema) : motive field :=
  step field (fun item _ => induction step item) fun _ _ member _ => induction step member.2
termination_by sizeOf field
decreasing_by
  · exact sizeOf_item_lt ‹_›
  · exact sizeOf_member_lt ‹_› ‹_›

/-- A property of a description and of all that stand inside it. -/
def Everywhere (property : FieldSchema → Prop) (field : FieldSchema) : Prop :=
  ∀ inner, field.Contains inner → property inner

/-- What holds everywhere holds of the description itself, and everywhere in the element and in the
members. -/
lemma everywhere_iff {property : FieldSchema → Prop} {field : FieldSchema} :
    field.Everywhere property ↔ property field ∧
      (∀ item, field.item = some item → item.Everywhere property) ∧
      ∀ fields, field.fields = some fields → ∀ member ∈ fields, member.2.Everywhere property := by
  constructor
  · exact fun h => ⟨h field (.refl field), fun _ hi inner hinner => h inner (.item hi hinner),
      fun _ hf _ hm inner hinner => h inner (.member hf hm hinner)⟩
  · rintro ⟨hself, hitem, hmembers⟩ inner hinner
    cases hinner with
    | refl => exact hself
    | item hi hinside => exact hitem _ hi inner hinside
    | member hf hm hinside => exact hmembers _ hf _ hm inner hinside

/-- Where nothing stands inside, what holds of a description holds everywhere. -/
lemma everywhere_of_bare {property : FieldSchema → Prop} {field : FieldSchema} (h : property field)
    (hitem : field.item = none) (hfields : field.fields = none) : field.Everywhere property :=
  everywhere_iff.2 ⟨h, fun _ hi => by simp [hitem] at hi, fun _ hf => by simp [hfields] at hf⟩

/-- What holds everywhere in an object holds of it and everywhere in its members. -/
lemma everywhere_ofObject {property : FieldSchema → Prop} {fields : Schema} :
    (ofObject fields).Everywhere property ↔ property (ofObject fields) ∧
      ∀ member ∈ fields, member.2.Everywhere property := by
  rw [everywhere_iff]
  constructor
  · rintro ⟨hself, -, hmembers⟩
    exact ⟨hself, hmembers fields rfl⟩
  · rintro ⟨hself, hmembers⟩
    refine ⟨hself, fun item h => ?_, fun fields' h => ?_⟩
    · cases h
    · cases h
      exact hmembers

/-- What holds everywhere in an array holds of it and everywhere in its element. -/
lemma everywhere_ofArray {property : FieldSchema → Prop} {item : FieldSchema} :
    (ofArray item).Everywhere property ↔ property (ofArray item) ∧ item.Everywhere property := by
  rw [everywhere_iff]
  constructor
  · rintro ⟨hself, hitem, -⟩
    exact ⟨hself, hitem item rfl⟩
  · rintro ⟨hself, hitem⟩
    refine ⟨hself, fun item' h => ?_, fun fields h => ?_⟩
    · cases h
      exact hitem
    · cases h

end FieldSchema

end ModelSchema
