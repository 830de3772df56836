import ModelSchema.Compilation
import ModelSchema.Json.Printer
import ModelSchema.Sample.Values
import ModelSchema.TypeScript.Printer

set_option autoImplicit false

/-!
# Texts from texts

What can be made of the text of a document in one step.

## Main definitions

* `schemaText` — the schema of the last model, as indented JSON.
* `samplesText` — samples of the last model, as indented JSON.
* `declarationsText` — the declarations of all models.
-/

namespace ModelSchema

/-- The schema of the last model of a document, as indented JSON. -/
def schemaText (document : String) : Except CompileError String :=
  (compileSchema document {}).map fun schema => schema.toJson.pretty

/-- Samples of the last model of a document, as indented JSON. -/
def samplesText (document : String) (sampler : Sampler) (count : Nat) :
    Except CompileError (Draw String) :=
  (compileSchema document {}).map fun schema =>
    (fun samples => (Json.array samples).pretty) <$> schema.samples sampler count

/-- The declarations of all models of a document. -/
def declarationsText (document : String) (style : TypeScript.Style) :
    Except CompileError String := do
  let schemas ← resolveModels (← Model.ofText document)
  return TypeScript.declarations style schemas

end ModelSchema
