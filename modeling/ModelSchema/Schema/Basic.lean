import ModelSchema.Schema.Entries
import ModelSchema.Schema.Kind
import ModelSchema.Schema.Literal

set_option autoImplicit false

/-!
# Schemas

A schema describes an object by its members. It is a tree without names to look up: what an element
of an array or a member of an object looks like stands in place.

## Main definitions

* `FieldSchema` — the description of one field.
* `Schema` — the members of an object, in order.
* `FieldSchema.decEq` — whether two descriptions are the same.
* `FieldSchema.ofKind`, `FieldSchema.ofObject`, `FieldSchema.ofArray` — plain fields of a kind, with
  members, with elements.
-/

namespace ModelSchema

/-- The description of one field. The bounds are those of the length of a text, of a number, or of
the length of an array, by the kind of the field. -/
structure FieldSchema where
  kind : FieldKind
  /-- Whether the field has to be there. -/
  required : Bool := false
  min : Option UInt64 := none
  max : Option UInt64 := none
  /-- The literals that the field is restricted to. -/
  choices : Option (List Literal) := none
  /-- What the elements of an array look like. -/
  item : Option FieldSchema := none
  /-- The members of an object. -/
  fields : Option (List (String × FieldSchema)) := none
  nullable : Bool := false
  /-- Whether a form leaves the field out. -/
  hidden : Bool := false
  /-- Whether a form marks the field as required. This is presentation only. -/
  marked : Bool := false
  /-- What a form starts with. -/
  initial : Option Literal := none
  deriving Inhabited, Repr

/-- The members of an object, in order. -/
abbrev Schema := Entries FieldSchema

mutual

/-- Whether two descriptions are the same. -/
def FieldSchema.decEq : (field other : FieldSchema) → Decidable (field = other)
  | ⟨kind, required, min, max, choices, item, fields, nullable, hidden, marked, initial⟩,
    ⟨kind', required', min', max', choices', item', fields', nullable', hidden', marked',
      initial'⟩ =>
    have := itemDecEq item item'
    have := fieldsDecEq fields fields'
    decidable_of_iff
      ((kind = kind' ∧ required = required' ∧ min = min' ∧ max = max' ∧ choices = choices') ∧
        (item = item' ∧ fields = fields') ∧
        nullable = nullable' ∧ hidden = hidden' ∧ marked = marked' ∧ initial = initial')
      (by rw [FieldSchema.mk.injEq]; simp only [and_assoc])

/-- Whether two descriptions of an element are the same. -/
def itemDecEq : (item other : Option FieldSchema) → Decidable (item = other)
  | none, none => isTrue rfl
  | none, some _ => isFalse nofun
  | some _, none => isFalse nofun
  | some item, some other =>
    have := item.decEq other
    decidable_of_iff (item = other) (Option.some_inj).symm

/-- Whether the members of two objects are the same, if they are described. -/
def fieldsDecEq :
    (fields others : Option (List (String × FieldSchema))) → Decidable (fields = others)
  | none, none => isTrue rfl
  | none, some _ => isFalse nofun
  | some _, none => isFalse nofun
  | some fields, some others =>
    have := membersDecEq fields others
    decidable_of_iff (fields = others) (Option.some_inj).symm

/-- Whether two lists of members are the same. -/
def membersDecEq : (fields others : List (String × FieldSchema)) → Decidable (fields = others)
  | [], [] => isTrue rfl
  | [], _ :: _ => isFalse nofun
  | _ :: _, [] => isFalse nofun
  | (name, field) :: fields, (name', other) :: others =>
    have := field.decEq other
    have := membersDecEq fields others
    decidable_of_iff ((name = name' ∧ field = other) ∧ fields = others)
      (by rw [List.cons.injEq, Prod.mk.injEq])

end

/-- Descriptions are compared attribute by attribute, at every depth. -/
instance : DecidableEq FieldSchema := FieldSchema.decEq

namespace FieldSchema

/-- A field of a kind, with nothing else said about it. -/
def ofKind (kind : FieldKind) : FieldSchema :=
  { kind }

/-- An object with the given members. -/
def ofObject (fields : Schema) : FieldSchema :=
  { kind := .object, fields := some fields }

/-- An array with elements like `item`. -/
def ofArray (item : FieldSchema) : FieldSchema :=
  { kind := .array, item := some item }

/-- Whether the field is restricted to literals, of which there has to be one at least. -/
def isEnum (field : FieldSchema) : Bool :=
  match field.choices with
  | some (_ :: _) => true
  | _ => false

/-- The member of an object with the given name. -/
def field? (field : FieldSchema) (name : String) : Option FieldSchema :=
  field.fields.bind fun fields => Entries.get? fields name

end FieldSchema

end ModelSchema
