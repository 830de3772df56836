import ModelSchema.Json.Record
import ModelSchema.TypeScript.Basic

set_option autoImplicit false

/-!
# Writing type expressions and declarations

Each member of an object stands on a line of its own, one level deeper than the line that opens the
object; the closing brace is back at that level. A union inside an array is put in parentheses. A
string literal stands between single quotes, with a backslash before each quote and backslash in it.

## Main definitions

* `TypeScript.indentation` — the blanks at the start of a line.
* `TypeScript.TypeExpr.chars` — a type expression as text.
* `TypeScript.Style`, `TypeScript.EmitOptions` — what a declaration may be told, with their JSON
  forms.
* `FieldSchema.renderType`, `Schema.renderObject`, `Schema.declaration`, `TypeScript.declarations` —
  the texts of types and declarations.
-/

namespace ModelSchema

namespace TypeScript

/-- The blanks at the start of a line at a level. -/
def indentation (width level : Nat) : List Char :=
  List.replicate (level * width) ' '

/-- A one-word type as it is written. -/
def Keyword.chars : Keyword → List Char
  | .string => "string".toList
  | .number => "number".toList
  | .boolean => "boolean".toList
  | .object => "object".toList
  | .any => "any".toList

/-- A character between single quotes. -/
def quotedChar (c : Char) : List Char :=
  if c = '\\' ∨ c = '\'' then ['\\', c] else [c]

/-- A literal as a type. -/
def literalChars : Literal → List Char
  | .string s => '\'' :: (s.toList.flatMap quotedChar ++ ['\''])
  | literal => literal.spelling

/-- Alternatives with bars between them. -/
def alternativesChars : List (List Char) → List Char
  | [] => []
  | [alternative] => alternative
  | alternative :: alternatives =>
    alternative ++ ' ' :: '|' :: ' ' :: alternativesChars alternatives

mutual

/-- A type expression that starts on a line at `level`. -/
def TypeExpr.chars (width level : Nat) : TypeExpr → List Char
  | .keyword word => word.chars
  | .literal value => literalChars value
  | .union alternatives => alternativesChars (alternativeTexts width level alternatives)
  | .array item =>
    if item.isUnion then '(' :: (item.chars width level ++ [')', '[', ']'])
    else item.chars width level ++ ['[', ']']
  | .object members =>
    '{' :: (membersChars width (level + 1) members ++ '\n' :: (indentation width level ++ ['}']))

/-- Alternatives, each written on its own. -/
def alternativeTexts (width level : Nat) : List TypeExpr → List (List Char)
  | [] => []
  | alternative :: alternatives =>
    alternative.chars width level :: alternativeTexts width level alternatives

/-- The lines of the members of an object, each opened by a line feed. -/
def membersChars (width level : Nat) : List (String × Bool × TypeExpr) → List Char
  | [] => []
  | (name, isOptional, type) :: members =>
    '\n' :: (indentation width level ++ name.toList ++ (if isOptional then ['?'] else []) ++
      ':' :: ' ' :: (type.chars width level ++ ';' :: membersChars width level members))

end

/-- How a declaration introduces its type. -/
inductive Style where
  | interface
  | typeAlias
  deriving DecidableEq, Inhabited, Repr

/-- What stands before the body of a declaration. -/
def Style.heading (name : String) : Style → List Char
  | .interface => "interface ".toList ++ name.toList ++ [' ']
  | .typeAlias => "type ".toList ++ name.toList ++ [' ', '=', ' ']

/-- A style as JSON. -/
def Style.toJson : Style → Json
  | .interface => .string "interface"
  | .typeAlias => .string "type_alias"

/-- The style of a name. -/
def Style.ofName? (name : String) : Option Style :=
  if name = "interface" then some .interface
  else if name = "type_alias" then some .typeAlias
  else none

/-- The style of a JSON text. -/
def Style.ofText? (text : String) : Option Style :=
  (Json.Tree.ofText? text).bind fun value =>
    (value.variant? Json.nestingLimit).bind Style.ofName?

/-- What the writing of declarations may be told. -/
structure EmitOptions where
  /-- The number of spaces for each level. -/
  indentWidth : UInt64 := 2
  deriving DecidableEq, Inhabited, Repr

/-- The options as JSON. -/
def EmitOptions.toJson (options : EmitOptions) : Json :=
  .object [("indent_width", .number options.indentWidth.toNat)]

/-- The options of a JSON text. -/
def EmitOptions.ofText? (text : String) : Option EmitOptions := do
  let value ← Json.Tree.ofText? text
  let parts ← value.record? ["indent_width"]
  let indentWidth ← Json.Tree.part? parts "indent_width" (some 2) Json.Tree.word?
  some { indentWidth }

end TypeScript

open TypeScript

/-- The type of a field as text that starts on a line at `level`. -/
def FieldSchema.renderType (options : EmitOptions) (field : FieldSchema) (level : Nat) : String :=
  String.ofList (field.typeExpr.chars options.indentWidth.toNat level)

namespace Schema

/-- The type of an object as text that starts on a line at `level`. -/
def renderObject (options : EmitOptions) (schema : Schema) (level : Nat) : String :=
  String.ofList (schema.typeExpr.chars options.indentWidth.toNat level)

/-- The declaration of a type with the members of a schema. -/
def declaration (options : EmitOptions) (style : Style) (name : String) (schema : Schema) :
    String :=
  String.ofList (style.heading name ++ schema.typeExpr.chars options.indentWidth.toNat 0)

end Schema

/-- The declarations of schemas, with blank lines between them. -/
def TypeScript.declarations (style : Style) (schemas : List (String × Schema)) : String :=
  "\n\n".intercalate (schemas.map fun entry => Schema.declaration {} style entry.1 entry.2)

end ModelSchema
