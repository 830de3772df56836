import ModelSchema.Catalog.Basic
import ModelSchema.Document.Annotation
import ModelSchema.Schema.Basic
import ModelSchema.Trace

set_option autoImplicit false

/-!
# Expansion

Expanding a model puts the members of every model that it refers to in the place of the reference. A
model is not expanded inside itself. Each model goes along a path of models in expansion, so the
models that are not on the path yet become fewer with every reference, and the expansion comes to an
end.

## Main definitions

* `Field.expand` — the description of a field, given how references are expanded.
* `Model.expand` — the members of a model, given the models that are not in expansion.
* `Catalog.resolve` — the schema of a model of a catalog.
* `Catalog.resolveAll` — the schemas of all models.
-/

namespace ModelSchema

/-- The description of a field after its decorators. A decorator without a meaning is noted and
passed over. -/
def Field.annotate (field : Field) (schema : FieldSchema) : Traced FieldSchema :=
  field.decorators.foldlM
    (fun schema decorator => do
      match ← Traced.lift decorator.annotation with
      | some annotation => return annotation.apply schema
      | none =>
        Traced.log (.ignoring decorator.name field.name decorator.position)
        return schema)
    schema

/-- The description of a field: of its base first, where `reference` expands the model of a name,
then of what the declaration and the decorators add. -/
def Field.expand (field : Field) (reference : String → Traced Schema) : Traced FieldSchema := do
  let base ←
    match field.type.base with
    | .primitive kind => pure (FieldSchema.ofKind kind)
    | .model name => FieldSchema.ofObject <$> reference name
  let schema ← field.annotate (field.describe base)
  Traced.lift (field.checkBounds schema)

/-- The members of a model at a depth, where `reference` expands the model of a name for a field. -/
def Model.expandFields (model : Model) (depth : Nat) (reference : Field → String → Traced Schema) :
    Traced Schema := do
  Traced.log (.expanding model.name depth)
  model.fields.mapM fun field => do
    return (field.name, ← field.expand (reference field))

/-- Why `field` cannot refer to the model `name` when the models of `path` are in expansion and no
other model has that name: it is one of them, or it is not declared. -/
def Field.brokenReference (field : Field) (path : List String) (name : String) : CompileError :=
  if name ∈ path then .recursiveNesting (path.dropWhile (· != name) ++ [name]) field.position
  else .undefinedType name field.name field.position

/-- The models that do not have the given name. -/
def Model.others (models : List Model) (name : String) : List Model :=
  models.filter fun model => model.name != name

/-- The models beside a model that is among them are fewer. -/
theorem Model.length_others_lt {models : List Model} {name : String} {model : Model}
    (h : models.find? (·.name == name) = some model) :
    (others models name).length < models.length := by
  rw [others, List.length_filter_lt_length_iff_exists]
  exact ⟨model, List.mem_of_find?_eq_some h, by simpa using List.find?_some h⟩

/-- The members of a model. The models of `path`, the last of which is this one, are in expansion,
and the models `free` are not. -/
def Model.expand (free : List Model) (path : List String) (model : Model) : Traced Schema :=
  model.expandFields path.length fun field name =>
    match _h : free.find? (·.name == name) with
    | some next => next.expand (others free name) (path ++ [name])
    | none => Traced.fail (field.brokenReference path name)
termination_by free.length
decreasing_by exact length_others_lt _h

namespace Catalog

/-- The schema of a model. -/
def resolve (catalog : Catalog) (model : Model) : Traced Schema :=
  model.expand (Model.others catalog.models model.name) [model.name]

/-- The schemas of all models, in order of declaration. -/
def resolveAll (catalog : Catalog) : Traced (List (String × Schema)) :=
  catalog.models.mapM fun model => do
    return (model.name, ← catalog.resolve model)

end Catalog

/-- The name and the schema of the model that a selection picks among `models`. -/
def resolveRoot (models : List Model) (selection : RootSelection) : Traced (String × Schema) := do
  let catalog ← Traced.lift (Catalog.ofModels models)
  let root ← Traced.lift (catalog.root selection)
  Traced.log (.resolving root.name models.length)
  let schema ← catalog.resolve root
  return (root.name, schema)

/-- The schemas of `models`, each under the name of its model. -/
def resolveModels (models : List Model) : Except CompileError (List (String × Schema)) := do
  let catalog ← Catalog.ofModels models
  catalog.resolveAll.outcome

end ModelSchema
