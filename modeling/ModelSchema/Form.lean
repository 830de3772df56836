import ModelSchema.Instant
import ModelSchema.Schema.Basic

set_option autoImplicit false

/-!
# Settings forms

A schema denotes a form with one entry for each field. A field with members, or with elements that
have members, has an entry for each of these below it.

## Main definitions

* `FormField`, `Form` — the entries of a form.
* `FieldSchema.blank` — what the entry of a field starts with.
* `FieldSchema.form`, `Schema.form` — the form of a field and of a schema.
* `FormField.toJson`, `Form.toJson` — a form as JSON.
-/

namespace ModelSchema

/-- The entry of a form for one field. -/
structure FormField where
  isShown : Bool
  isDisabled : Bool := false
  /-- What the entry starts with. -/
  initial : Json
  isRequired : Bool
  isChecked : Bool := false
  /-- The entries below, if the field has members. -/
  children : Option (List (String × FormField))
  deriving Inhabited, Repr

/-- The entries of a form, in order. -/
abbrev Form := Entries FormField

/-- What an entry of a kind starts with when nothing else is said. A date starts with the
present. -/
def FieldKind.blank (now : Instant) : FieldKind → Json
  | .array => .array []
  | .string | .email | .uuid => .string ""
  | .number => .number 0
  | .boolean => .bool false
  | .date => .string now.text
  | .object => .null

/-- What the entry of a field starts with: the literal that was asked for; else null, where it is
allowed; else the first literal that the field is restricted to; else the blank of its kind. -/
def FieldSchema.blank (now : Instant) (field : FieldSchema) : Json :=
  match field.initial with
  | some literal => literal.toJson
  | none =>
    if field.nullable then .null
    else
      match field.choices with
      | some (first :: _) => first.toJson
      | _ => field.kind.blank now

mutual

/-- The entry of a field. -/
def FieldSchema.form (now : Instant) : FieldSchema → FormField
  | { kind, required, min, max, choices, item, fields, nullable, hidden, marked, initial } =>
    { isShown := !hidden
      initial := FieldSchema.blank now
        { kind, required, min, max, choices, item, fields, nullable, hidden, marked, initial }
      isRequired := marked
      children :=
        match kind with
        | .object => fieldsForm now fields
        | .array => itemForm now item
        | _ => none }

/-- The entries for the members of an element. -/
def itemForm (now : Instant) : Option FieldSchema → Option (List (String × FormField))
  | none => none
  | some { fields, .. } => fieldsForm now fields

/-- The entries for the members of an object, if they are described. -/
def fieldsForm (now : Instant) :
    Option (List (String × FieldSchema)) → Option (List (String × FormField))
  | none => none
  | some fields => some (entriesForm now fields)

/-- The entries for described members. -/
def entriesForm (now : Instant) : List (String × FieldSchema) → List (String × FormField)
  | [] => []
  | (name, field) :: fields => (name, field.form now) :: entriesForm now fields

end

/-- The form of a schema. -/
def Schema.form (now : Instant) (schema : Schema) : Form :=
  entriesForm now schema

mutual

/-- An entry as a JSON object. -/
def FormField.toJson : FormField → Json
  | { isShown, isDisabled, initial, isRequired, isChecked, children } =>
    Json.objectOf
      [Json.always "isShow" (.bool isShown),
        Json.always "disabled" (.bool isDisabled),
        Json.always "defaultValue" initial,
        Json.always "required" (.bool isRequired),
        Json.always "check" (.bool isChecked),
        Json.present "children" (childrenJson children)]

/-- The entries below an entry, if there are any. -/
def childrenJson : Option (List (String × FormField)) → Option Json
  | none => none
  | some entries => some (.object (entryJsons entries))

/-- Named entries. -/
def entryJsons : List (String × FormField) → List (String × Json)
  | [] => []
  | (name, entry) :: entries => (name, entry.toJson) :: entryJsons entries

end

/-- A form as a JSON object. -/
def Form.toJson (form : Form) : Json :=
  .object (entryJsons form)

end ModelSchema
