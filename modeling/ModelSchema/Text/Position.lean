set_option autoImplicit false

/-!
# Positions in a source text

A position is a line and a column, both counted from one. Only a line feed starts a new line, and
every other character, of whatever width, moves one column on.

## Main definitions

* `Position` — a line and a column.
* `Position.start` — the position of the first character.
* `Position.advance` — the position after a run of characters.

## Main results

* `Position.advance_append` — advancing over two runs is advancing over the first, then the second.
-/

namespace ModelSchema

/-- A place in a source text, counted from line one and column one. -/
structure Position where
  /-- The number of line feeds before the place, plus one. -/
  line : Nat
  /-- The number of characters since the last line feed, plus one. -/
  column : Nat
  deriving DecidableEq, Repr, Inhabited

namespace Position

/-- The position of the first character of a text. -/
def start : Position := ⟨1, 1⟩

/-- The position after the character `c` at `p`. -/
def next (p : Position) (c : Char) : Position :=
  if c = '\n' then ⟨p.line + 1, 1⟩ else ⟨p.line, p.column + 1⟩

/-- The position after the characters `cs`, the first of which stands at `p`. -/
def advance (p : Position) (cs : List Char) : Position :=
  cs.foldl next p

/-- No characters leave a position where it is. -/
@[simp]
theorem advance_nil (p : Position) : p.advance [] = p := rfl

/-- The first character is passed before the others. -/
@[simp]
theorem advance_cons (p : Position) (c : Char) (cs : List Char) :
    p.advance (c :: cs) = (p.next c).advance cs := rfl

/-- Characters in a row are passed one part after another. -/
theorem advance_append (p : Position) (cs ds : List Char) :
    p.advance (cs ++ ds) = (p.advance cs).advance ds :=
  List.foldl_append ..

end Position

end ModelSchema
