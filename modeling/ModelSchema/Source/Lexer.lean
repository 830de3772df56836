import ModelSchema.Error
import ModelSchema.Source.Piece
import ModelSchema.Text.Decimal

set_option autoImplicit false

/-!
# The tokens of a source text

The tokens of a text are those of its pieces, each at the position where its spelling starts, and
the end of the text. Pieces are looked at in order, so that a number that is too large is reported
before a character that is stuck after it.

## Main definitions

* `Piece.token?` — the token of a piece at a position.
* `Token.ofPieces` — the tokens of pieces that start at a position.
* `Token.ofText` — the tokens of a text.
-/

namespace ModelSchema

/-- The token of a piece whose spelling starts at `position`; blanks and comments have none. -/
def Piece.token? (position : Position) : Piece → Except CompileError (Option Token)
  | .token kind text =>
    if kind = .number ∧ Text.readWord? text = none then
      .error (.numberOutOfRange (String.ofList text) position)
    else .ok (some ⟨kind, String.ofList text, position⟩)
  | _ => .ok none

namespace Token

/-- The tokens of pieces of which the first starts at `position`. -/
def ofPieces (position : Position) : List Piece → Except CompileError (List Token)
  | [] => .ok []
  | piece :: pieces => do
    let token? ← piece.token? position
    let tokens ← ofPieces (position.advance piece.spelling) pieces
    return token?.toList ++ tokens

/-- The tokens of a text, the last of which is its end. -/
def ofText (text : String) : Except CompileError (List Token) := do
  let (pieces, rest) := Piece.scan text.toList
  let stop := Position.start.advance (pieces.flatMap Piece.spelling)
  let tokens ← ofPieces .start pieces
  match rest with
  | [] => return tokens ++ [⟨.endOfInput, "", stop⟩]
  | c :: _ => throw (.unexpectedCharacter c stop)

end Token

end ModelSchema
