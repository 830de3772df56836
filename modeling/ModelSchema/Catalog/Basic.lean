import ModelSchema.Document.Basic
import ModelSchema.Error

set_option autoImplicit false

/-!
# Catalogs

A catalog holds the models of a document after everything has been checked that can be seen without
expanding a model: first every model, for a name that means something else and for the name of an
earlier model; then every field, for the name of an earlier field of its model and for a type that
is not declared.

## Main definitions

* `Model.checkAll` — the first offence of a list of models.
* `Catalog` — models without an offence.
* `Catalog.ofModels` — the catalog of a list of models.
* `RootSelection`, `Catalog.root` — which model a document is about.
-/

namespace ModelSchema

/-- Identifiers that spell a literal, and so cannot name a model. -/
def literalNames : List String :=
  ["null", "true", "false"]

/-- Whether a name means something other than a model. -/
def isReserved (name : String) : Bool :=
  (FieldKind.ofName? name).isSome || literalNames.contains name

/-! ## Checks -/

namespace Model

/-- The names of models, none of which may be reserved or among `seen`, or occur twice. -/
def checkNames (seen : List String) : List Model → Except CompileError Unit
  | [] => .ok ()
  | model :: models =>
    if isReserved model.name then .error (.reservedName model.name model.position)
    else if model.name ∈ seen then .error (.duplicateModel model.name model.position)
    else checkNames (model.name :: seen) models

/-- The fields of a model, the names of which may not be among `seen` or occur twice, and the types
of which have to be primitive or among `declared`. -/
def checkFields (declared : List String) (model : String) (seen : List String) :
    List Field → Except CompileError Unit
  | [] => .ok ()
  | field :: fields =>
    if field.name ∈ seen then .error (.duplicateField model field.name field.position)
    else
      match field.type.base with
      | .primitive _ => checkFields declared model (field.name :: seen) fields
      | .model type =>
        if type ∈ declared then checkFields declared model (field.name :: seen) fields
        else .error (.undefinedType type field.name field.position)

/-- All models: first their names, then their fields. -/
def checkAll (models : List Model) : Except CompileError Unit := do
  checkNames [] models
  models.forM fun model => checkFields (models.map Model.name) model.name [] model.fields

end Model

/-! ## Catalogs -/

/-- Models that have been checked. -/
structure Catalog where
  models : List Model
  /-- The models have no offence. -/
  checked : Model.checkAll models = .ok ()

namespace Catalog

/-- The catalog of models, or their first offence. -/
def ofModels (models : List Model) : Except CompileError Catalog :=
  match h : Model.checkAll models with
  | .ok () => .ok ⟨models, h⟩
  | .error e => .error e

/-- The model of a name. -/
def model? (catalog : Catalog) (name : String) : Option Model :=
  catalog.models.find? fun model => model.name == name

end Catalog

/-- Which model a document is about. -/
inductive RootSelection where
  /-- The last one that is declared. -/
  | last
  /-- The one of a name. -/
  | named (name : String)
  deriving DecidableEq, Inhabited, Repr

/-- The model that a selection picks. -/
def Catalog.root (catalog : Catalog) : RootSelection → Except CompileError Model
  | .last =>
    match catalog.models.getLast? with
    | some model => .ok model
    | none => .error .emptyDocument
  | .named name =>
    match catalog.model? name with
    | some model => .ok model
    | none => .error (.unknownRoot name)

end ModelSchema
