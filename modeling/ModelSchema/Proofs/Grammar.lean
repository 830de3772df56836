import Mathlib.Data.List.Basic
import ModelSchema.Document.Basic
import ModelSchema.Source.Token

set_option autoImplicit false

/-!
# The grammar of documents

What a run of tokens declares, by rules that do not read them in any order. Each nonterminal is a
relation between the tokens of a phrase and the part of the document that they declare.

## Main definitions

* `Grammar.Many`, `Grammar.Separated`, `Grammar.Mark` — repetition, lists with marks between, and
  marks that may be there.
* `Literal.Derives`, `Grammar.Arguments`, `Decorator.Derives`, `Grammar.NullMark`,
  `Grammar.Brackets`, `FieldType.Derives`, `Field.Body`, `Field.Derives`, `Model.Derives` — the
  nonterminals.
* `Grammar.Document` — the models that a run of tokens declares.
-/

namespace ModelSchema

namespace Grammar

variable {α : Type}

/-! ## Ways to put phrases together -/

/-- Any number of phrases, one after another. -/
inductive Many (P : List Token → α → Prop) : List Token → List α → Prop where
  | nil : Many P [] []
  | cons {ts us : List Token} {a : α} {as : List α} (first : P ts a) (rest : Many P us as) :
      Many P (ts ++ us) (a :: as)

/-- One token of a sort, or several with marks of a kind between them. -/
inductive Separated (mark : TokenKind) (P : Token → α → Prop) : List Token → List α → Prop where
  | one {t : Token} {a : α} (first : P t a) : Separated mark P [t] [a]
  | snoc {ts : List Token} {as : List α} {m t : Token} {a : α} (before : Separated mark P ts as)
      (between : m.kind = mark) (last : P t a) : Separated mark P (ts ++ [m, t]) (as ++ [a])

/-- A mark of a kind, which may be there or not. -/
inductive Mark (mark : TokenKind) : List Token → Bool → Prop where
  | absent : Mark mark [] false
  | present {m : Token} (kind : m.kind = mark) : Mark mark [m] true

/-- One more phrase at the end. -/
lemma Many.snoc {P : List Token → α → Prop} {ts us : List Token} {a : α} {as : List α}
    (before : Many P ts as) (last : P us a) : Many P (ts ++ us) (as ++ [a]) := by
  induction before with
  | nil => simpa using Many.cons last .nil
  | cons first _ ih =>
    rw [List.append_assoc, List.cons_append]
    exact .cons first ih

/-- Where one of several phrases begins and ends. -/
lemma Many.exists_of_append_cons {P : List Token → α → Prop} {ts : List Token}
    {before after : List α} {a : α} (h : Many P ts (before ++ a :: after)) :
    ∃ us vs ws, ts = us ++ (vs ++ ws) ∧ Many P us before ∧ P vs a ∧ Many P ws after := by
  induction before generalizing ts with
  | nil =>
    obtain _ | ⟨first, rest⟩ := h
    exact ⟨[], _, _, rfl, .nil, first, rest⟩
  | cons b before ih =>
    obtain _ | ⟨first, rest⟩ := h
    obtain ⟨us, vs, ws, rfl, hbefore, ha, hafter⟩ := ih rest
    exact ⟨_, vs, ws, (List.append_assoc ..).symm, .cons first hbefore, ha, hafter⟩

/-- One of several phrases stands somewhere among them. -/
lemma Many.exists_of_mem {P : List Token → α → Prop} {ts : List Token} {as : List α} {a : α}
    (h : Many P ts as) (ha : a ∈ as) : ∃ us vs ws, ts = us ++ (vs ++ ws) ∧ P vs a := by
  obtain ⟨before, after, rfl⟩ := List.append_of_mem ha
  obtain ⟨us, vs, ws, hts, -, hvs, -⟩ := h.exists_of_append_cons
  exact ⟨us, vs, ws, hts, hvs⟩

end Grammar

/-! ## Decorators -/

/-- A literal: a string, a number that is a word, or one of three identifiers. -/
inductive Literal.Derives : Token → Literal → Prop where
  | string {t : Token} (kind : t.kind = .string) : Literal.Derives t (.string t.text)
  | number {t : Token} {n : UInt64} (kind : t.kind = .number)
      (word : Text.readWord? t.text.toList = some n) : Literal.Derives t (.number n)
  | yes {t : Token} (kind : t.kind = .identifier) (text : t.text = "true") :
      Literal.Derives t (.bool true)
  | no {t : Token} (kind : t.kind = .identifier) (text : t.text = "false") :
      Literal.Derives t (.bool false)
  | null {t : Token} (kind : t.kind = .identifier) (text : t.text = "null") :
      Literal.Derives t .null

/-- The arguments of a decorator: none at all, or literals with commas between them in
parentheses. -/
inductive Grammar.Arguments : List Token → List Literal → Prop where
  | absent : Grammar.Arguments [] []
  | empty {l r : Token} (left : l.kind = .leftParen) (right : r.kind = .rightParen) :
      Grammar.Arguments [l, r] []
  | given {l r : Token} {ts : List Token} {literals : List Literal} (left : l.kind = .leftParen)
      (inside : Grammar.Separated .comma Literal.Derives ts literals)
      (right : r.kind = .rightParen) :
      Grammar.Arguments (l :: (ts ++ [r])) literals

/-- A decorator: an at sign, a name and arguments. -/
inductive Decorator.Derives : List Token → Decorator → Prop where
  | mk {sign name : Token} {ts : List Token} {arguments : List Literal} (kind : sign.kind = .atSign)
      (word : name.kind = .identifier) (args : Grammar.Arguments ts arguments) :
      Decorator.Derives (sign :: name :: ts) ⟨name.text, arguments, sign.position⟩

/-! ## Types -/

/-- A member of a union: a string. -/
def Grammar.Member (t : Token) (text : String) : Prop :=
  t.kind = .string ∧ t.text = text

/-- The alternative of a null, which may be there or not. -/
inductive Grammar.NullMark : List Token → Bool → Prop where
  | absent : Grammar.NullMark [] false
  | present {bar word : Token} (pipe : bar.kind = .pipe) (kind : word.kind = .identifier)
      (text : word.text = "null") : Grammar.NullMark [bar, word] true

/-- A pair of brackets, which may be there or not. -/
inductive Grammar.Brackets : List Token → Bool → Prop where
  | absent : Grammar.Brackets [] false
  | present {l r : Token} (left : l.kind = .leftBracket) (right : r.kind = .rightBracket) :
      Grammar.Brackets [l, r] true

/-- A type: strings with bars between them; or a name, possibly with the alternative of a null and
with brackets, in this order. -/
inductive FieldType.Derives : List Token → FieldType → Prop where
  | union {ts : List Token} {members : List String}
      (strings : Grammar.Separated .pipe Grammar.Member ts members) :
      FieldType.Derives ts ⟨.primitive .string, false, false, some members⟩
  | named {name : Token} {ns bs : List Token} {isNullable isArray : Bool}
      (word : name.kind = .identifier) (nulls : Grammar.NullMark ns isNullable)
      (brackets : Grammar.Brackets bs isArray) :
      FieldType.Derives (name :: (ns ++ bs)) ⟨.ofName name.text, isArray, isNullable, none⟩

/-! ## Declarations -/

/-- A field up to its semicolon: a name, possibly a question mark, a colon, a type and
decorators. -/
inductive Field.Body : List Token → Field → Prop where
  | mk {name colon : Token} {qs ts ds : List Token} {isOptional : Bool} {type : FieldType}
      {decorators : List Decorator} (word : name.kind = .identifier)
      (question : Grammar.Mark .question qs isOptional) (mark : colon.kind = .colon)
      (typed : FieldType.Derives ts type)
      (decorated : Grammar.Many Decorator.Derives ds decorators) :
      Field.Body (name :: (qs ++ colon :: (ts ++ ds)))
        ⟨name.text, name.position, type, decorators, isOptional⟩

/-- A field: its body and a semicolon. -/
inductive Field.Derives : List Token → Field → Prop where
  | mk {ts : List Token} {stop : Token} {field : Field} (body : Field.Body ts field)
      (semicolon : stop.kind = .semicolon) : Field.Derives (ts ++ [stop]) field

/-- A model: the word that opens it, a name, and fields in braces. -/
inductive Model.Derives : List Token → Model → Prop where
  | mk {opening name l r : Token} {fs : List Token} {fields : List Field}
      (model : opening.kind = .model) (word : name.kind = .identifier) (left : l.kind = .leftBrace)
      (inside : Grammar.Many Field.Derives fs fields) (right : r.kind = .rightBrace) :
      Model.Derives (opening :: name :: l :: (fs ++ [r])) ⟨name.text, name.position, fields⟩

/-- A document: any number of models. -/
def Grammar.Document : List Token → List Model → Prop :=
  Grammar.Many Model.Derives

end ModelSchema
