import ModelSchema.Schema.Basic

set_option autoImplicit false

/-!
# Type expressions

A schema denotes a TypeScript type. The type is built as a tree first, in which every question of
precedence is settled, and written out afterwards.

## Main definitions

* `TypeScript.TypeExpr` — a type expression.
* `TypeScript.TypeExpr.oneOf` — the union of alternatives.
* `FieldSchema.typeExpr`, `Schema.typeExpr` — the type of a field and of an object.
-/

namespace ModelSchema

namespace TypeScript

/-- The types that are written as one word. -/
inductive Keyword where
  | string
  | number
  | boolean
  | object
  | any
  deriving DecidableEq, Inhabited, Repr

/-- A type expression. A member of an object has a name and may be optional. -/
inductive TypeExpr where
  | keyword (word : Keyword)
  | literal (value : Literal)
  | union (alternatives : List TypeExpr)
  | array (item : TypeExpr)
  | object (members : List (String × Bool × TypeExpr))
  deriving Inhabited, Repr

namespace TypeExpr

/-- One of several alternatives; a single one stands for itself. -/
def oneOf : List TypeExpr → TypeExpr
  | [alternative] => alternative
  | alternatives => .union alternatives

/-- Whether the expression binds looser than the brackets of an array. -/
def isUnion : TypeExpr → Bool
  | .union _ => true
  | _ => false

end TypeExpr

/-- The alternatives of literals. -/
def literalTypes (values : List Literal) : List TypeExpr :=
  values.map .literal

/-- The alternative of a null, where it is allowed. -/
def nullType (nullable : Bool) : List TypeExpr :=
  if nullable then [.literal .null] else []

end TypeScript

open TypeScript

mutual

/-- The type of a field: its literals, if it is restricted to some, and otherwise the type of its
kind; and null, if it may be null. -/
def FieldSchema.typeExpr : FieldSchema → TypeExpr
  | { kind, choices, item, fields, nullable, .. } =>
    let alternatives :=
      match choices with
      | some (value :: values) => literalTypes (value :: values)
      | _ =>
        match kind with
        | .string | .email | .uuid | .date => [.keyword .string]
        | .number => [.keyword .number]
        | .boolean => [.keyword .boolean]
        | .array => [.array (itemType item)]
        | .object => [fieldsType fields]
    TypeExpr.oneOf (alternatives ++ nullType nullable)

/-- The type of the elements of an array; without a description, any type. -/
def itemType : Option FieldSchema → TypeExpr
  | none => .keyword .any
  | some item => item.typeExpr

/-- The type of an object; without a description, any object. -/
def fieldsType : Option (List (String × FieldSchema)) → TypeExpr
  | none => .keyword .object
  | some fields => .object (memberTypes fields)

/-- The types of the members of an object. A member that need not be there is optional. -/
def memberTypes : List (String × FieldSchema) → List (String × Bool × TypeExpr)
  | [] => []
  | (name, field) :: fields => (name, !field.required, field.typeExpr) :: memberTypes fields

end

/-- The type of an object with the members of a schema. -/
def Schema.typeExpr (schema : Schema) : TypeExpr :=
  .object (memberTypes schema)

end ModelSchema
