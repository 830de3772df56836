import ModelSchema.Text.Position

set_option autoImplicit false

/-!
# Tokens of a document

## Main definitions

* `TokenKind` — the kinds of tokens.
* `TokenKind.description` — what a diagnostic calls a token of that kind.
* `Token` — a token with its text and its position.
-/

namespace ModelSchema

/-- The kinds of tokens. -/
inductive TokenKind where
  /-- The word that opens a declaration. -/
  | model
  /-- Any other word. -/
  | identifier
  | colon
  | semicolon
  | leftBrace
  | rightBrace
  | leftBracket
  | rightBracket
  | question
  | pipe
  | atSign
  | leftParen
  | rightParen
  | comma
  /-- A text between double quotes. -/
  | string
  /-- A run of digits. -/
  | number
  /-- The end of the document, which is a token of its own. -/
  | endOfInput
  deriving DecidableEq, Inhabited, Repr

namespace TokenKind

/-- What a diagnostic calls a token of this kind. -/
def description : TokenKind → String
  | .model => "\"model\""
  | .identifier => "identifier"
  | .colon => "\":\""
  | .semicolon => "\";\""
  | .leftBrace => "\"\x7b\""
  | .rightBrace => "\"\x7d\""
  | .leftBracket => "\"[\""
  | .rightBracket => "\"]\""
  | .question => "\"?\""
  | .pipe => "\"|\""
  | .atSign => "\"@\""
  | .leftParen => "\"(\""
  | .rightParen => "\")\""
  | .comma => "\",\""
  | .string => "string literal"
  | .number => "number literal"
  | .endOfInput => "end of input"

/-- The kind of a mark of one character. -/
def ofMark? : Char → Option TokenKind
  | ':' => some .colon
  | ';' => some .semicolon
  | '{' => some .leftBrace
  | '}' => some .rightBrace
  | '[' => some .leftBracket
  | ']' => some .rightBracket
  | '?' => some .question
  | '|' => some .pipe
  | '@' => some .atSign
  | '(' => some .leftParen
  | ')' => some .rightParen
  | ',' => some .comma
  | _ => none

end TokenKind

/-- A token of a document. The text of a string stands without its quotes. -/
structure Token where
  kind : TokenKind
  text : String
  /-- Where the first character of the token stands. -/
  position : Position
  deriving DecidableEq, Inhabited, Repr

end ModelSchema
