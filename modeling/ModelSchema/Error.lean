import ModelSchema.Schema.Literal
import ModelSchema.Source.Token
import ModelSchema.Text.Inspect

set_option autoImplicit false

/-!
# Errors of a compilation

An error says what is wrong with a document and, as far as it has one, where. Its message is put
together from that cause.

## Main definitions

* `Expectation` — what a document should have gone on with.
* `ArgumentRule` — what a decorator takes.
* `CompileError` — the causes of a failed compilation.
* `CompileError.kind`, `CompileError.position?`, `CompileError.message` — their stage, place and
  text.
-/

namespace ModelSchema

/-- What a document should have gone on with. -/
inductive Expectation where
  /-- A token of some kind. -/
  | token (kind : TokenKind)
  /-- The identifier with a given spelling. -/
  | word (spelling : String)
  /-- A literal of any kind. -/
  | literal
  deriving DecidableEq, Inhabited, Repr

/-- How a diagnostic names an expectation. -/
def Expectation.description : Expectation → String
  | .token kind => kind.description
  | .word spelling => "\"" ++ spelling ++ "\""
  | .literal => "literal"

/-- What a decorator takes. -/
inductive ArgumentRule where
  | oneNumber
  | oneFlag
  | oneValue
  | someValues
  deriving DecidableEq, Inhabited, Repr

/-- How a diagnostic names what a decorator takes. -/
def ArgumentRule.description : ArgumentRule → String
  | .oneNumber => "a single number argument"
  | .oneFlag => "a single boolean argument"
  | .oneValue => "exactly one argument"
  | .someValues => "at least one value"

/-- How a diagnostic names the arguments that were given instead. -/
def describeArguments : List Literal → String
  | [] => "no arguments"
  | [argument] => argument.kindName
  | arguments => Text.decimal arguments.length ++ " arguments"

/-- The causes of a failed compilation. -/
inductive CompileError where
  /-- A character at which no token starts. -/
  | unexpectedCharacter (found : Char) (position : Position)
  /-- A number that is not a word. -/
  | numberOutOfRange (text : String) (position : Position)
  /-- A token that cannot stand where it does. -/
  | unexpectedToken (expected : Expectation) (found : TokenKind) (position : Position)
  /-- A field whose type is not declared. -/
  | undefinedType (type field : String) (position : Position)
  /-- A chain of models each of which holds the next, the first and the last being one model. -/
  | recursiveNesting (path : List String) (position : Position)
  /-- A second model of a name. -/
  | duplicateModel (name : String) (position : Position)
  /-- A second field of a name in one model. -/
  | duplicateField (model field : String) (position : Position)
  /-- A model with a name that means something else. -/
  | reservedName (name : String) (position : Position)
  /-- A decorator that does not take the arguments it is given. -/
  | illegalArguments (decorator : String) (rule : ArgumentRule) (arguments : List Literal)
      (position : Position)
  /-- A field whose lower bound is above its upper bound. -/
  | invertedBounds (field : String) (min max : UInt64) (position : Position)
  /-- A document without a model. -/
  | emptyDocument
  /-- A root that is not declared. -/
  | unknownRoot (name : String)
  deriving DecidableEq, Inhabited, Repr

namespace CompileError

/-- The stages at which a compilation can fail. -/
inductive Kind where
  | lexing
  | parsing
  | resolution
  deriving DecidableEq, Inhabited, Repr

/-- The stage at which an error arises. -/
def kind : CompileError → Kind
  | .unexpectedCharacter .. | .numberOutOfRange .. => .lexing
  | .unexpectedToken .. => .parsing
  | _ => .resolution

/-- The place in the document that an error points at, when it has one. -/
def position? : CompileError → Option Position
  | .unexpectedCharacter _ p
  | .numberOutOfRange _ p
  | .unexpectedToken _ _ p
  | .undefinedType _ _ p
  | .recursiveNesting _ p
  | .duplicateModel _ p
  | .duplicateField _ _ p
  | .reservedName _ p
  | .illegalArguments _ _ _ p
  | .invertedBounds _ _ _ p => some p
  | .emptyDocument | .unknownRoot _ => none

/-- What an error says about its cause. -/
def detail : CompileError → String
  | .unexpectedCharacter found _ => "unexpected character " ++ Text.inspectChar found
  | .numberOutOfRange text _ => "number " ++ text ++ " is out of range"
  | .unexpectedToken expected found _ =>
    "expected " ++ expected.description ++ " but found " ++ found.description
  | .undefinedType type field _ =>
    "the type " ++ Text.inspect type ++ " used by field " ++ Text.inspect field ++ " is not defined"
  | .recursiveNesting path _ =>
    "recursive nesting " ++ " -> ".intercalate path ++ " is not allowed"
  | .duplicateModel name _ => "the model " ++ Text.inspect name ++ " is defined twice"
  | .duplicateField model field _ =>
    "the field " ++ Text.inspect field ++ " is defined twice in model " ++ Text.inspect model
  | .reservedName name _ => "the model name " ++ Text.inspect name ++ " is reserved"
  | .illegalArguments decorator rule arguments _ =>
    "@" ++ decorator ++ " expects " ++ rule.description ++ ", found " ++ describeArguments arguments
  | .invertedBounds field min max _ =>
    "field " ++ Text.inspect field ++ " has @min(" ++ Text.decimal min.toNat ++
      ") greater than @max(" ++ Text.decimal max.toNat ++ ")"
  | .emptyDocument => "the document does not declare any model"
  | .unknownRoot name => "the root model " ++ Text.inspect name ++ " is not declared"

/-- How a message names the stage of an error. -/
def Kind.heading : Kind → String
  | .lexing => "Lex error"
  | .parsing => "Parse error"
  | .resolution => "Resolution error"

/-- The message of an error: its stage, its place if it has one, and its cause. -/
def message (error : CompileError) : String :=
  let place :=
    match error.position? with
    | some p => " at line " ++ Text.decimal p.line ++ ", column " ++ Text.decimal p.column
    | none => ""
  error.kind.heading ++ place ++ ": " ++ error.detail

end CompileError

end ModelSchema
