import ModelSchema.Json.Basic
import ModelSchema.Text.Decimal

set_option autoImplicit false

/-!
# Literals

A literal is a value written out in a document: an argument of a decorator, a member of a union, a
default.

## Main definitions

* `Literal` — a literal value.
* `Literal.kindName` — what a diagnostic calls a literal of that kind.
* `Literal.spelling` — the literal as a document spells it.
* `Literal.toJson` — the literal as a JSON value.
-/

namespace ModelSchema

/-- A literal value. Numbers are words, as a document has no others. -/
inductive Literal where
  | null
  | bool (value : Bool)
  | number (value : UInt64)
  | string (value : String)
  deriving DecidableEq, Inhabited, Repr

namespace Literal

/-- What a diagnostic calls a literal of this kind. -/
def kindName : Literal → String
  | .null => "null"
  | .bool _ => "boolean"
  | .number _ => "number"
  | .string _ => "string"

/-- The characters of the literal as a document spells it: a string stands between double quotes,
without escapes. -/
def spelling : Literal → List Char
  | .null => ['n', 'u', 'l', 'l']
  | .bool true => ['t', 'r', 'u', 'e']
  | .bool false => ['f', 'a', 'l', 's', 'e']
  | .number n => Text.wordChars n
  | .string s => '"' :: (s.toList ++ ['"'])

/-- The literal as a JSON value. -/
def toJson : Literal → Json
  | .null => .null
  | .bool b => .bool b
  | .number n => .number n.toNat
  | .string s => .string s

end Literal

end ModelSchema
