import ModelSchema.Schema.Kind
import ModelSchema.Schema.Literal
import ModelSchema.Text.Position

set_option autoImplicit false

/-!
# Documents

A document declares models. A model has fields, a field has a type and decorators, and everything
keeps the position it was declared at.

## Main definitions

* `BaseType`, `FieldType` — the type of a field.
* `Decorator` — a decorator with its arguments.
* `Field`, `Model` — the declarations.
-/

namespace ModelSchema

/-- What a field holds: values of a primitive kind, or another model. -/
inductive BaseType where
  | primitive (kind : FieldKind)
  | model (name : String)
  deriving DecidableEq, Inhabited, Repr

namespace BaseType

/-- The base type that an identifier means: the kind of that name, and otherwise a model. -/
def ofName (name : String) : BaseType :=
  match FieldKind.ofName? name with
  | some kind => .primitive kind
  | none => .model name

/-- The identifier that stands for a base type. -/
def name : BaseType → String
  | .primitive kind => kind.name
  | .model name => name

/-- A type that is given by a name has that name. -/
theorem name_ofName (name : String) : (ofName name).name = name := by
  unfold ofName
  split
  · next kind h => exact FieldKind.ofName?_eq_some_iff.1 h
  · rfl

end BaseType

/-- The declared type of a field. -/
structure FieldType where
  base : BaseType
  /-- Declared with brackets. -/
  isArray : Bool := false
  /-- Declared with the alternative of a null. -/
  isNullable : Bool := false
  /-- The texts of a union of string literals, if the type is one. -/
  union : Option (List String) := none
  deriving DecidableEq, Inhabited, Repr

/-- A decorator on a field. -/
structure Decorator where
  name : String
  arguments : List Literal
  /-- Where its at sign stands. -/
  position : Position
  deriving DecidableEq, Inhabited, Repr

/-- A field of a model. -/
structure Field where
  name : String
  /-- Where its name stands. -/
  position : Position
  type : FieldType
  decorators : List Decorator
  /-- Declared with a question mark. -/
  isOptional : Bool
  deriving DecidableEq, Inhabited, Repr

/-- A declared model. -/
structure Model where
  name : String
  /-- Where its name stands. -/
  position : Position
  fields : List Field
  deriving DecidableEq, Inhabited, Repr

/-- The first field of a model with the given name. -/
def Model.field? (model : Model) (name : String) : Option Field :=
  model.fields.find? fun field => field.name == name

end ModelSchema
