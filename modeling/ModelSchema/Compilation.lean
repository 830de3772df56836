import ModelSchema.Catalog.Expansion
import ModelSchema.Document.Encode
import ModelSchema.Document.Reader
import ModelSchema.Json.Record
import ModelSchema.Schema.Encode

set_option autoImplicit false

/-!
# Compilation

A compilation cuts a text into tokens, reads its models, picks the root and expands it. It stops at
the first stage that fails.

## Main definitions

* `CompileOptions` — what a compilation may be told, with its JSON form.
* `Compilation` — what a compilation yields.
* `Compilation.trace` — a compilation with its events.
* `compile`, `compileSchema` — the outcome of a compilation.
-/

namespace ModelSchema

/-- What a compilation may be told. -/
structure CompileOptions where
  root : RootSelection := .last
  deriving DecidableEq, Inhabited, Repr

/-- A root selection as JSON. -/
def RootSelection.toJson : RootSelection → Json
  | .last => .string "last"
  | .named name => .object [("named", .string name)]

/-- The root selection of a tree. -/
def RootSelection.ofTree? : Json.Tree → Option RootSelection
  | .object [(some "named", value)] => value.text?.map .named
  | value => do
    let name ← value.variant? 1
    if name = "last" then some .last else none

namespace CompileOptions

/-- The options as JSON. -/
def toJson (options : CompileOptions) : Json :=
  .object [("root", options.root.toJson)]

/-- The options of a tree. -/
def ofTree? (value : Json.Tree) : Option CompileOptions := do
  let parts ← value.record? ["root"]
  let root ← Json.Tree.part? parts "root" (some .last) RootSelection.ofTree?
  some { root }

/-- The options of a JSON text. -/
def ofText? (text : String) : Option CompileOptions :=
  (Json.Tree.ofText? text).bind ofTree?

end CompileOptions

/-- What a compilation yields. -/
structure Compilation where
  /-- The name of the root. -/
  root : String
  models : List Model
  /-- The schema of the root. -/
  schema : Schema
  deriving DecidableEq, Inhabited, Repr

namespace Compilation

/-- A compilation as JSON. -/
def toJson (compilation : Compilation) : Json :=
  .object
    [("root", .string compilation.root),
      ("models", .array (compilation.models.map Model.toJson)),
      ("schema", compilation.schema.toJson)]

/-- A compilation with its events. -/
def trace (text : String) (options : CompileOptions) : Traced Compilation := do
  let tokens ← Traced.lift (Token.ofText text)
  Traced.log (.tokenized tokens.length)
  let models ← Traced.lift (Model.ofTokens tokens)
  Traced.log (.parsed models.length)
  let (root, schema) ← resolveRoot models options.root
  return { root, models, schema }

end Compilation

/-- The outcome of a compilation. -/
def compile (text : String) (options : CompileOptions) : Except CompileError Compilation :=
  (Compilation.trace text options).outcome

/-- Without its trace, a compilation reads the models of its text and resolves their root. -/
theorem compile_eq (text : String) (options : CompileOptions) :
    compile text options = do
      let models ← Model.ofText text
      let (root, schema) ← (resolveRoot models options.root).outcome
      return { root, models, schema } := by
  simp only [compile, Compilation.trace, Model.ofText, Traced.outcome_bind, Traced.outcome_lift,
    Traced.outcome_log, Traced.outcome_pure, pure_bind, bind_assoc]

/-- The schema that a compilation yields. -/
def compileSchema (text : String) (options : CompileOptions) : Except CompileError Schema :=
  (compile text options).map Compilation.schema

end ModelSchema
