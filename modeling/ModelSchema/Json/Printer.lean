import ModelSchema.Json.Basic
import ModelSchema.Json.Quoted

set_option autoImplicit false

/-!
# Writing JSON

A layout says what stands between the tokens of a value: what opens each line of an array or object,
and what follows the colon of a member. The compact layout has nothing anywhere. The indented one
has each item and member on a line of its own, two spaces deeper than the line that opens it, except
that an empty array or object stays together.

## Main definitions

* `Json.Layout` — the blanks between tokens, `Json.Layout.compact` and `Json.Layout.indented`.
* `Json.chars` — a value written in a layout.
* `Json.compact`, `Json.pretty` — a value as text.
-/

namespace ModelSchema.Json

/-- The blanks between the tokens of a written value. -/
structure Layout where
  /-- What opens a line at a nesting level. -/
  gap : Nat → List Char
  /-- What follows the colon of a member. -/
  afterColon : List Char

/-- No blanks at all. -/
def Layout.compact : Layout where
  gap _ := []
  afterColon := []

/-- One item or member to a line, indented by two spaces for each level. -/
def Layout.indented : Layout where
  gap level := '\n' :: List.replicate (2 * level) ' '
  afterColon := [' ']

/-- Items between brackets: each is opened by a gap at the level above `level`, and the closing
bracket by one at `level`. Without items the brackets stand together. -/
def enclosed (layout : Layout) (level : Nat) («open» close : Char) : List (List Char) → List Char
  | [] => [«open», close]
  | item :: items =>
    «open» :: (layout.gap (level + 1) ++ item ++
      items.flatMap (fun i => ',' :: (layout.gap (level + 1) ++ i)) ++ layout.gap level ++ [close])

mutual

/-- A value at a nesting level, written in a layout. -/
def chars (layout : Layout) (level : Nat) : Json → List Char
  | .null => ['n', 'u', 'l', 'l']
  | .bool true => ['t', 'r', 'u', 'e']
  | .bool false => ['f', 'a', 'l', 's', 'e']
  | .number n => Nat.toDigits 10 n
  | .string s => quotedChars s.toList
  | .array items => enclosed layout level '[' ']' (itemsChars layout (level + 1) items)
  | .object members => enclosed layout level '{' '}' (membersChars layout (level + 1) members)

/-- The items of an array, each written on its own. -/
def itemsChars (layout : Layout) (level : Nat) : List Json → List (List Char)
  | [] => []
  | item :: items => chars layout level item :: itemsChars layout level items

/-- The members of an object, each written as its name, a colon and its value. -/
def membersChars (layout : Layout) (level : Nat) : List (String × Json) → List (List Char)
  | [] => []
  | (name, value) :: members =>
    (quotedChars name.toList ++ ':' :: (layout.afterColon ++ chars layout level value)) ::
      membersChars layout level members

end

/-- A value as text without blanks. -/
def compact (value : Json) : String :=
  String.ofList (chars .compact 0 value)

/-- A value as indented text. -/
def pretty (value : Json) : String :=
  String.ofList (chars .indented 0 value)

end ModelSchema.Json
