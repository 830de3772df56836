import ModelSchema.Schema.Basic

set_option autoImplicit false

/-!
# Schemas as JSON

The kind of a field and whether it is required are always written. What is absent, and a flag that
is not set, is left out.

## Main definitions

* `FieldSchema.toJson`, `Schema.toJson` — a field and a schema as JSON values.
-/

namespace ModelSchema

mutual

/-- A field as a JSON object. -/
def FieldSchema.toJson : FieldSchema → Json
  | { kind, required, min, max, choices, item, fields, nullable, hidden, marked, initial } =>
    Json.objectOf
      [Json.always "type" (.string kind.name),
        Json.always "required" (.bool required),
        Json.present "min" (min.map fun n => .number n.toNat),
        Json.present "max" (max.map fun n => .number n.toNat),
        Json.present "enum" (choices.map fun values => .array (values.map Literal.toJson)),
        Json.present "itemType" (itemJson item),
        Json.present "fields" (fieldsJson fields),
        Json.flag "nullable" nullable,
        Json.flag "hidden" hidden,
        Json.flag "requiredMarker" marked,
        Json.present "default" (initial.map Literal.toJson)]

/-- The element of an array, if it is described. -/
def itemJson : Option FieldSchema → Option Json
  | none => none
  | some item => some item.toJson

/-- The members of an object, if they are described. -/
def fieldsJson : Option (List (String × FieldSchema)) → Option Json
  | none => none
  | some fields => some (.object (memberJsons fields))

/-- Members with their descriptions. -/
def memberJsons : List (String × FieldSchema) → List (String × Json)
  | [] => []
  | (name, field) :: fields => (name, field.toJson) :: memberJsons fields

end

/-- A schema as a JSON object. -/
def Schema.toJson (schema : Schema) : Json :=
  .object (memberJsons schema)

end ModelSchema
