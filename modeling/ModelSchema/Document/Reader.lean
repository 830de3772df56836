import ModelSchema.Document.Basic
import ModelSchema.Error
import ModelSchema.Source.Lexer

set_option autoImplicit false

/-!
# Reading a document

The grammar of documents needs no look-ahead, so a document is read by going over its tokens once.
What has been read so far, a `Prefix`, decides which tokens may come next; each of them makes a
longer prefix, and any other token is an error at its place. A document ends at its first end of
input, where no declaration may be open.

* document: any number of models
* model: the word that opens a model, an identifier, an opening brace, any number of fields, a
  closing brace
* field: an identifier, at most one question mark, a colon, a type, any number of decorators, a
  semicolon
* type: string literals with bars between them; or an identifier, at most one bar with the word
  null, at most one pair of brackets
* decorator: an at sign, an identifier, and possibly arguments: parentheses around any number of
  literals with commas between them
* literal: a string, a number, or one of the identifiers null, true and false

## Main definitions

* `FieldPrefix`, `Prefix` — the beginning of a field or of a document.
* `FieldPrefix.closed?` — the field that is read if it ends here.
* `FieldPrefix.step`, `Prefix.step` — what a further token makes of a prefix.
* `Model.ofTokens`, `Model.ofText` — the models that tokens or a text declare.

## Main results

* `Prefix.run_append` — reading two runs of tokens is reading the first, then the second.
-/

namespace ModelSchema

/-- The error of a token that cannot stand where it does. -/
def Token.unexpected (token : Token) (expected : Expectation) : CompileError :=
  .unexpectedToken expected token.kind token.position

/-- The literal that a token spells. -/
def Literal.ofToken (token : Token) : Except CompileError Literal :=
  match token.kind, token.text with
  | .string, text => .ok (.string text)
  | .number, text =>
    match Text.readWord? text.toList with
    | some n => .ok (.number n)
    | none => .error (.numberOutOfRange text token.position)
  | .identifier, "true" => .ok (.bool true)
  | .identifier, "false" => .ok (.bool false)
  | .identifier, "null" => .ok .null
  | _, _ => .error (token.unexpected .literal)

/-! ## Fields -/

/-- What stands before the colon of a field. -/
structure FieldHead where
  name : String
  position : Position
  isOptional : Bool := false
  deriving DecidableEq, Inhabited, Repr

/-- A field without decorators. -/
def FieldHead.field (head : FieldHead) (type : FieldType) : Field :=
  ⟨head.name, head.position, type, [], head.isOptional⟩

/-- A field with a further decorator. -/
def Field.decorate (field : Field) (decorator : Decorator) : Field :=
  { field with decorators := field.decorators ++ [decorator] }

/-- A decorator with a further argument. -/
def Decorator.push (decorator : Decorator) (argument : Literal) : Decorator :=
  { decorator with arguments := decorator.arguments ++ [argument] }

/-- The beginning of a field, of which at least the name has been read. -/
inductive FieldPrefix where
  /-- After the name. -/
  | afterName (head : FieldHead)
  /-- After the question mark. -/
  | afterQuestion (head : FieldHead)
  /-- After the colon. -/
  | afterColon (head : FieldHead)
  /-- After a member of a union. -/
  | afterMember (head : FieldHead) (members : List String)
  /-- After a bar of a union. -/
  | afterUnionBar (head : FieldHead) (members : List String)
  /-- After the name of the type. -/
  | afterType (head : FieldHead) (type : String)
  /-- After the bar behind the name of the type. -/
  | afterNullBar (head : FieldHead) (type : String)
  /-- After the null behind the bar. -/
  | afterNull (head : FieldHead) (type : String)
  /-- After the opening bracket. -/
  | afterBracket (head : FieldHead) (type : String) (isNullable : Bool)
  /-- After the closing bracket, or after the arguments of a decorator. -/
  | complete (field : Field)
  /-- After the at sign of a decorator. -/
  | afterAt (field : Field) (position : Position)
  /-- After the name of a decorator. -/
  | afterDecorator (field : Field) (decorator : Decorator)
  /-- After the opening parenthesis. -/
  | afterParen (field : Field) (decorator : Decorator)
  /-- After an argument. -/
  | afterArgument (field : Field) (decorator : Decorator)
  /-- After the comma behind an argument. -/
  | afterComma (field : Field) (decorator : Decorator)
  deriving DecidableEq, Inhabited, Repr

namespace FieldPrefix

/-- The field that has been read if it ends here. -/
def closed? : FieldPrefix → Option Field
  | .afterMember head members =>
    some (head.field { base := .primitive .string, union := some members })
  | .afterType head type => some (head.field { base := .ofName type })
  | .afterNull head type => some (head.field { base := .ofName type, isNullable := true })
  | .complete field => some field
  | .afterDecorator field decorator => some (field.decorate decorator)
  | _ => none

/-- What a diagnostic expects after a prefix. -/
def expected : FieldPrefix → Expectation
  | .afterName _ | .afterQuestion _ => .token .colon
  | .afterColon _ => .token .identifier
  | .afterUnionBar _ _ => .token .string
  | .afterNullBar _ _ => .word "null"
  | .afterBracket _ _ _ => .token .rightBracket
  | .afterAt _ _ => .token .identifier
  | .afterParen _ _ | .afterComma _ _ => .literal
  | .afterArgument _ _ => .token .rightParen
  | .afterMember _ _ | .afterType _ _ | .afterNull _ _ | .complete _ | .afterDecorator _ _ =>
    .token .semicolon

/-- A token that goes on with the field in a way of its own for the prefix; one that closes the
field so far and opens a decorator; or an error. -/
def step (read : FieldPrefix) (token : Token) : Except CompileError FieldPrefix :=
  match read, token.kind with
  | .afterName head, .question => .ok (.afterQuestion { head with isOptional := true })
  | .afterName head, .colon => .ok (.afterColon head)
  | .afterQuestion head, .colon => .ok (.afterColon head)
  | .afterColon head, .string => .ok (.afterMember head [token.text])
  | .afterColon head, .identifier => .ok (.afterType head token.text)
  | .afterMember head members, .pipe => .ok (.afterUnionBar head members)
  | .afterUnionBar head members, .string => .ok (.afterMember head (members ++ [token.text]))
  | .afterType head type, .pipe => .ok (.afterNullBar head type)
  | .afterType head type, .leftBracket => .ok (.afterBracket head type false)
  | .afterNullBar head type, .identifier =>
    if token.text = "null" then .ok (.afterNull head type)
    else .error (token.unexpected (.word "null"))
  | .afterNull head type, .leftBracket => .ok (.afterBracket head type true)
  | .afterBracket head type isNullable, .rightBracket =>
    .ok (.complete (head.field { base := .ofName type, isArray := true, isNullable }))
  | .afterAt field position, .identifier => .ok (.afterDecorator field ⟨token.text, [], position⟩)
  | .afterDecorator field decorator, .leftParen => .ok (.afterParen field decorator)
  | .afterParen field decorator, .rightParen => .ok (.complete (field.decorate decorator))
  | .afterParen field decorator, _ =>
    (Literal.ofToken token).map fun literal => .afterArgument field (decorator.push literal)
  | .afterArgument field decorator, .comma => .ok (.afterComma field decorator)
  | .afterArgument field decorator, .rightParen => .ok (.complete (field.decorate decorator))
  | .afterComma field decorator, _ =>
    (Literal.ofToken token).map fun literal => .afterArgument field (decorator.push literal)
  | read, .atSign =>
    match read.closed? with
    | some field => .ok (.afterAt field token.position)
    | none => .error (token.unexpected read.expected)
  | read, _ => .error (token.unexpected read.expected)

end FieldPrefix

/-! ## Documents -/

/-- The beginning of a document: the models that are complete, and how far the next one has been
read. -/
inductive Prefix where
  /-- Between two models. -/
  | betweenModels (models : List Model)
  /-- After the word that opens a model. -/
  | afterModel (models : List Model)
  /-- After the name of a model. -/
  | afterName (models : List Model) (model : Model)
  /-- Between two fields of a model. -/
  | inModel (models : List Model) (model : Model)
  /-- Inside a field. -/
  | inField (models : List Model) (model : Model) (read : FieldPrefix)
  deriving DecidableEq, Inhabited, Repr

namespace Prefix

/-- What a diagnostic expects after a prefix. -/
def expected : Prefix → Expectation
  | .betweenModels _ => .token .model
  | .afterModel _ => .token .identifier
  | .afterName _ _ => .token .leftBrace
  | .inModel _ _ => .token .identifier
  | .inField _ _ read => read.expected

/-- The prefix after a further token. -/
def step (read : Prefix) (token : Token) : Except CompileError Prefix :=
  match read, token.kind with
  | .betweenModels models, .model => .ok (.afterModel models)
  | .afterModel models, .identifier => .ok (.afterName models ⟨token.text, token.position, []⟩)
  | .afterName models model, .leftBrace => .ok (.inModel models model)
  | .inModel models model, .rightBrace => .ok (.betweenModels (models ++ [model]))
  | .inModel models model, .identifier =>
    .ok (.inField models model (.afterName { name := token.text, position := token.position }))
  | .inField models model read, .semicolon =>
    match read.closed? with
    | some field => .ok (.inModel models { model with fields := model.fields ++ [field] })
    | none => (read.step token).map (.inField models model)
  | .inField models model read, _ => (read.step token).map (.inField models model)
  | read, _ => .error (token.unexpected read.expected)

/-- The prefix after a run of tokens. -/
def run (read : Prefix) (tokens : List Token) : Except CompileError Prefix :=
  tokens.foldlM step read

/-- The models of a document that ends at `stop`. -/
def finish (stop : Token) : Prefix → Except CompileError (List Model)
  | .betweenModels models => .ok models
  | read => .error (stop.unexpected read.expected)

/-- No tokens leave a prefix as it is. -/
@[simp]
theorem run_nil (read : Prefix) : read.run [] = .ok read := rfl

/-- The first token is read before the others. -/
@[simp]
theorem run_cons (read : Prefix) (token : Token) (tokens : List Token) :
    read.run (token :: tokens) = read.step token >>= fun next => next.run tokens := rfl

/-- Tokens in a row are read one part after another. -/
theorem run_append (read : Prefix) (ts us : List Token) :
    read.run (ts ++ us) = read.run ts >>= fun next => next.run us :=
  List.foldlM_append ..

end Prefix

namespace Model

/-- Whether a token ends the document. -/
def isEnd (token : Token) : Bool :=
  token.kind == .endOfInput

/-- The models that tokens declare. The last token has to be the end of input; what stands after an
earlier one is not looked at. -/
def ofTokens (tokens : List Token) : Except CompileError (List Model) :=
  match tokens.getLast? with
  | none => .error (.unexpectedToken (.token .endOfInput) .endOfInput .start)
  | some last =>
    if isEnd last then do
      let read ← (Prefix.betweenModels []).run (tokens.takeWhile fun token => !isEnd token)
      read.finish ((tokens.find? isEnd).getD last)
    else .error (last.unexpected (.token .endOfInput))

/-- The models that a text declares. -/
def ofText (text : String) : Except CompileError (List Model) :=
  Token.ofText text >>= ofTokens

end Model

end ModelSchema
