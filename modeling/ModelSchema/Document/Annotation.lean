import ModelSchema.Document.Basic
import ModelSchema.Error
import ModelSchema.Schema.Basic

set_option autoImplicit false

/-!
# What decorators say

Six decorators have a meaning, and each of them admits its own arguments. What a decorator says
replaces what an earlier one of the same name has said.

## Main definitions

* `Annotation` — what a decorator says about a field, and `Annotation.apply`, the field it is said
  about.
* `Decorator.annotation` — what a decorator says, if it has a meaning and its arguments are
  admitted.
* `Field.checkBounds` — the rule that the bounds of a field are not the wrong way round.
-/

namespace ModelSchema

/-- What a decorator says about a field. -/
inductive Annotation where
  | min (bound : UInt64)
  | max (bound : UInt64)
  | choices (values : List Literal)
  | hidden (value : Bool)
  | initial (value : Literal)
  | marked (value : Bool)
  deriving DecidableEq, Inhabited, Repr

/-- A field about which something further has been said. -/
def Annotation.apply (field : FieldSchema) : Annotation → FieldSchema
  | .min bound => { field with min := some bound }
  | .max bound => { field with max := some bound }
  | .choices values => { field with choices := some values }
  | .hidden value => { field with hidden := value }
  | .initial value => { field with initial := some value }
  | .marked value => { field with marked := value }

namespace Decorator

/-- The error of a decorator whose arguments are not admitted. -/
def illegal (decorator : Decorator) (rule : ArgumentRule) : CompileError :=
  .illegalArguments decorator.name rule decorator.arguments decorator.position

/-- The only argument, which has to be a number. -/
def bound (decorator : Decorator) : Except CompileError UInt64 :=
  match decorator.arguments with
  | [.number n] => .ok n
  | _ => .error (decorator.illegal .oneNumber)

/-- The only argument, which has to be a boolean; without an argument, true. -/
def switch (decorator : Decorator) : Except CompileError Bool :=
  match decorator.arguments with
  | [] => .ok true
  | [.bool b] => .ok b
  | _ => .error (decorator.illegal .oneFlag)

/-- The only argument. -/
def value (decorator : Decorator) : Except CompileError Literal :=
  match decorator.arguments with
  | [v] => .ok v
  | _ => .error (decorator.illegal .oneValue)

/-- All arguments, of which there has to be one at least. -/
def values (decorator : Decorator) : Except CompileError (List Literal) :=
  match decorator.arguments with
  | [] => .error (decorator.illegal .someValues)
  | vs => .ok vs

/-- What a decorator says; a decorator of another name says nothing. -/
def annotation (decorator : Decorator) : Except CompileError (Option Annotation) :=
  match decorator.name with
  | "min" => decorator.bound.map fun n => some (.min n)
  | "max" => decorator.bound.map fun n => some (.max n)
  | "enum" => decorator.values.map fun vs => some (.choices vs)
  | "show" => decorator.switch.map fun b => some (.hidden !b)
  | "value" => decorator.value.map fun v => some (.initial v)
  | "required" => decorator.switch.map fun b => some (.marked b)
  | _ => .ok none

end Decorator

/-- The description of a declared field, when it has both bounds and the lower one is not above the
upper one, or lacks one of them. -/
def Field.checkBounds (field : Field) (schema : FieldSchema) : Except CompileError FieldSchema :=
  match schema.min, schema.max with
  | some min, some max =>
    if max < min then .error (.invertedBounds field.name min max field.position) else .ok schema
  | _, _ => .ok schema

/-- The description of a declared field before its decorators, from that of its base. The element of
an array is always there. -/
def Field.describe (field : Field) (base : FieldSchema) : FieldSchema :=
  let shape := if field.type.isArray then .ofArray { base with required := true } else base
  { shape with
    required := !field.isOptional
    nullable := field.type.isNullable
    choices := field.type.union.map fun members => members.map .string }

end ModelSchema
