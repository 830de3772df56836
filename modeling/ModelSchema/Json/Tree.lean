import ModelSchema.Json.Token

set_option autoImplicit false

/-!
# Reading a JSON text

A text is read into a tree by going over its tokens once, with a stack of the arrays and objects
that are still open. The tree keeps numbers as they are written and strings that denote no text, so
that a reader may ignore a part of it without looking at what it holds.

## Main definitions

* `Json.Tree` — a JSON value as written.
* `Json.Reading.step` — what one token does to the stack of open containers.
* `Json.Tree.ofTokens?`, `Json.Tree.ofText?` — the value that tokens or a text spell.

## Main results

* `Json.Reading.run_append` — reading two runs of tokens is reading the first, then the second.
-/

namespace ModelSchema.Json

/-- A JSON value as written. A string, or the name of a member, may denote no text. -/
inductive Tree where
  | null
  | bool (value : Bool)
  | number (value : Numeral)
  | string (value : Option String)
  | array (items : List Tree)
  | object (members : List (Option String × Tree))
  deriving Inhabited, Repr

/-- An array or object that is still open, with what it holds so far, last first. -/
inductive Container where
  | array (items : List Tree)
  | object (members : List (Option String × Tree)) (name : Option String)
  deriving Inhabited, Repr

/-- What the next token may be. -/
inductive Awaiting where
  /-- A value. -/
  | value
  /-- The first item of an array, or its end. -/
  | firstItem
  /-- The first name of an object, or its end. -/
  | firstName
  /-- The name of a further member. -/
  | name
  /-- The colon after a name. -/
  | colon
  /-- A comma, or the end of the innermost container. -/
  | separator
  /-- Nothing: the text is complete and has this value. -/
  | nothing (value : Tree)
  deriving Inhabited, Repr

/-- A point in the reading of a text: the open containers, innermost first, and what may come
next. -/
structure Reading where
  /-- The containers that are still open, the innermost one first. -/
  stack : List Container
  /-- What the next token may be. -/
  awaiting : Awaiting
  deriving Inhabited, Repr

namespace Reading

/-- Before the first token. -/
def start : Reading := ⟨[], .value⟩

/-- The reading after a complete value inside `stack`. -/
def supply (value : Tree) : List Container → Reading
  | [] => ⟨[], .nothing value⟩
  | .array items :: stack => ⟨.array (value :: items) :: stack, .separator⟩
  | .object members name :: stack => ⟨.object ((name, value) :: members) none :: stack, .separator⟩

/-- The reading after the first token of a value. -/
def begin (stack : List Container) : Token → Option Reading
  | .null => some (supply .null stack)
  | .bool b => some (supply (.bool b) stack)
  | .number n => some (supply (.number n) stack)
  | .string s => some (supply (.string s) stack)
  | .openBracket => some ⟨.array [] :: stack, .firstItem⟩
  | .openBrace => some ⟨.object [] none :: stack, .firstName⟩
  | _ => none

/-- The reading after a further token. -/
def step : Reading → Token → Option Reading
  | ⟨stack, .value⟩, t => begin stack t
  | ⟨.array items :: stack, .firstItem⟩, .closeBracket => some (supply (.array items.reverse) stack)
  | ⟨stack, .firstItem⟩, t => begin stack t
  | ⟨.object members _ :: stack, .firstName⟩, .closeBrace =>
    some (supply (.object members.reverse) stack)
  | ⟨.object members _ :: stack, .firstName⟩, .string s => some ⟨.object members s :: stack, .colon⟩
  | ⟨.object members _ :: stack, .name⟩, .string s => some ⟨.object members s :: stack, .colon⟩
  | ⟨stack, .colon⟩, .colon => some ⟨stack, .value⟩
  | ⟨.array items :: stack, .separator⟩, .comma => some ⟨.array items :: stack, .value⟩
  | ⟨.array items :: stack, .separator⟩, .closeBracket =>
    some (supply (.array items.reverse) stack)
  | ⟨.object members name :: stack, .separator⟩, .comma =>
    some ⟨.object members name :: stack, .name⟩
  | ⟨.object members _ :: stack, .separator⟩, .closeBrace =>
    some (supply (.object members.reverse) stack)
  | _, _ => none

/-- The reading after a run of tokens. -/
def run (r : Reading) (tokens : List Token) : Option Reading :=
  tokens.foldlM step r

/-- No tokens leave a reading as it is. -/
@[simp]
theorem run_nil (r : Reading) : r.run [] = some r := rfl

/-- The first token is read before the others. -/
@[simp]
theorem run_cons (r : Reading) (t : Token) (ts : List Token) :
    r.run (t :: ts) = (r.step t).bind fun r' => r'.run ts := rfl

/-- Tokens in a row are read one part after another. -/
theorem run_append (r : Reading) (ts us : List Token) :
    r.run (ts ++ us) = (r.run ts).bind fun r' => r'.run us :=
  List.foldlM_append ..

end Reading

namespace Tree

/-- The value that `tokens` spell, if they spell exactly one. -/
def ofTokens? (tokens : List Token) : Option Tree :=
  (Reading.start.run tokens).bind fun r =>
    match r.awaiting with
    | .nothing value => some value
    | _ => none

/-- The value that `text` spells, if it is a JSON text. -/
def ofText? (text : String) : Option Tree :=
  (Token.all? text.toList).bind ofTokens?

end Tree

end ModelSchema.Json
