import ModelSchema.Json.Record
import ModelSchema.Schema.Basic

set_option autoImplicit false

/-!
# Schemas from JSON

A field is a record whose kind has to be given. A name that occurs twice in a schema keeps its first
place and takes its last value.

## Main definitions

* `FieldSchema.ofTree?`, `Schema.ofTree?` — the field or schema of a tree, where `room` arrays and
  objects may be opened.
* `FieldSchema.ofText?`, `Schema.ofText?`, `Schema.collectionOfText?`, `Literal.ofText?` — the value
  of a JSON text.
-/

namespace ModelSchema

open Json (Tree)

/-- The literal of a tree. -/
def Literal.ofTree? : Tree → Option Literal
  | .null => some .null
  | .bool b => some (.bool b)
  | .number n => n.word?.map .number
  | .string s => s.map .string
  | _ => none

/-- The kind of a tree. -/
def FieldKind.ofTree? (room : Nat) (value : Tree) : Option FieldKind :=
  (value.variant? room).bind FieldKind.ofName?

/-- A list of literals. -/
def literals? (room : Nat) : Tree → Option (List Literal)
  | .array items => if room = 0 then none else items.mapM Literal.ofTree?
  | _ => none

namespace FieldSchema

/-- The names of the parts of a field, in order. -/
def partNames : List String :=
  ["type", "required", "min", "max", "enum", "itemType", "fields", "nullable", "hidden",
    "requiredMarker", "default"]

end FieldSchema

mutual

/-- The field of a tree, where `room` arrays and objects may be opened. -/
def FieldSchema.ofTree? : (room : Nat) → Tree → Option FieldSchema
  | 0, _ => none
  | room + 1, value => do
    let parts ← value.record? FieldSchema.partNames
    let kind ← Tree.part? parts "type" none (FieldKind.ofTree? room)
    let required ← Tree.part? parts "required" (some false) Tree.bool?
    let min ← Tree.part? parts "min" (some none) (Tree.optional? Tree.word?)
    let max ← Tree.part? parts "max" (some none) (Tree.optional? Tree.word?)
    let choices ← Tree.part? parts "enum" (some none) (Tree.optional? (literals? room))
    let item ← Tree.part? parts "itemType" (some none) (Tree.optional? (FieldSchema.ofTree? room))
    let fields ← Tree.part? parts "fields" (some none) (Tree.optional? (Schema.ofTree? room))
    let nullable ← Tree.part? parts "nullable" (some false) Tree.bool?
    let hidden ← Tree.part? parts "hidden" (some false) Tree.bool?
    let marked ← Tree.part? parts "requiredMarker" (some false) Tree.bool?
    let initial ← Tree.part? parts "default" (some none) (Tree.optional? Literal.ofTree?)
    some { kind, required, min, max, choices, item, fields, nullable, hidden, marked, initial }

/-- The schema of a tree, where `room` arrays and objects may be opened. -/
def Schema.ofTree? : (room : Nat) → Tree → Option Schema
  | room + 1, .object members =>
    (Tree.members? (FieldSchema.ofTree? room) members).map Entries.ofList
  | _, _ => none

end

/-- The field of a JSON text. -/
def FieldSchema.ofText? (text : String) : Option FieldSchema :=
  (Tree.ofText? text).bind (FieldSchema.ofTree? Json.nestingLimit)

/-- The schema of a JSON text. -/
def Schema.ofText? (text : String) : Option Schema :=
  (Tree.ofText? text).bind (Schema.ofTree? Json.nestingLimit)

/-- The named schemas of a JSON text. -/
def Schema.collectionOfText? (text : String) : Option (Entries Schema) :=
  match Tree.ofText? text with
  | some (.object members) =>
    (Tree.members? (Schema.ofTree? (Json.nestingLimit - 1)) members).map Entries.ofList
  | _ => none

/-- The literal of a JSON text. -/
def Literal.ofText? (text : String) : Option Literal :=
  (Tree.ofText? text).bind Literal.ofTree?

end ModelSchema
