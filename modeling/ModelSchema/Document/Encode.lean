import ModelSchema.Document.Basic

set_option autoImplicit false

/-!
# Documents as JSON

Every declaration becomes an object with all of its parts, its line and column right after its name.

## Main definitions

* `BaseType.toJson`, `FieldType.toJson`, `Decorator.toJson`, `Field.toJson`, `Model.toJson` — the
  JSON values of the parts of a document.
-/

namespace ModelSchema

/-- The name and the position of a declaration, as members. -/
def declarationMembers (name : String) (position : Position) : List (String × Json) :=
  [("name", .string name), ("line", .number position.line), ("column", .number position.column)]

/-- A base type as an object whose one member says which sort of type it is. -/
def BaseType.toJson : BaseType → Json
  | .primitive kind => .object [("Primitive", .string kind.name)]
  | .model name => .object [("Model", .string name)]

/-- A type as an object. -/
def FieldType.toJson (type : FieldType) : Json :=
  .object
    [("base_type", type.base.toJson),
      ("is_array", .bool type.isArray),
      ("is_nullable", .bool type.isNullable),
      ("is_union", .bool type.union.isSome),
      ("union_literals",
        match type.union with
        | some members => .array (members.map .string)
        | none => .null)]

/-- A decorator as an object. -/
def Decorator.toJson (decorator : Decorator) : Json :=
  .object
    [("name", .string decorator.name),
      ("args", .array (decorator.arguments.map Literal.toJson)),
      ("line", .number decorator.position.line),
      ("column", .number decorator.position.column)]

/-- A field as an object. -/
def Field.toJson (field : Field) : Json :=
  .object <| declarationMembers field.name field.position ++
    [("field_type", field.type.toJson),
      ("decorators", .array (field.decorators.map Decorator.toJson)),
      ("is_optional", .bool field.isOptional)]

/-- A model as an object. -/
def Model.toJson (model : Model) : Json :=
  .object <| declarationMembers model.name model.position ++
    [("fields", .array (model.fields.map Field.toJson))]

end ModelSchema
