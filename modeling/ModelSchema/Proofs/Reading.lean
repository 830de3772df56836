import ModelSchema.Proofs.ReaderSteps

set_option autoImplicit false

/-!
# Reading is derivation

The reader goes over the tokens once and never looks ahead. It accepts exactly the runs of tokens
that the grammar derives, and it builds what they derive.

## Main definitions

* `FieldPrefix.Reads`, `Prefix.Reads` — the tokens that a prefix may have come from.

## Main results

* `Prefix.reads_of_run` — a prefix that has been read has come from the tokens of the run.
* `Prefix.run_of_document` — tokens that derive models are read to these models.
* `Model.ofTokens_concat` — what tokens with one end declare.
* `Model.ofTokens_accepts_grammar` — the reader accepts exactly the grammar.
-/

namespace ModelSchema

open Grammar

/-! ## What has been read -/

/-- What stands before the type of a field. -/
inductive FieldHead.Derives : List Token → FieldHead → Prop where
  | mk {name colon : Token} {qs : List Token} {isOptional : Bool} (word : name.kind = .identifier)
      (question : Mark .question qs isOptional) (mark : colon.kind = .colon) :
      FieldHead.Derives (name :: (qs ++ [colon])) ⟨name.text, name.position, isOptional⟩

namespace Field.Body

variable {hs ts ds : List Token} {head : FieldHead} {type : FieldType} {field : Field}

/-- A field without decorators. -/
lemma plain (opening : FieldHead.Derives hs head) (typed : FieldType.Derives ts type) :
    Field.Body (hs ++ ts) (head.field type) := by
  obtain ⟨word, question, mark⟩ := opening
  simpa [FieldHead.field] using Field.Body.mk word question mark typed .nil

/-- A field with a further decorator. -/
lemma decorate {decorator : Decorator} (body : Field.Body ts field)
    (derives : Decorator.Derives ds decorator) :
    Field.Body (ts ++ ds) (field.decorate decorator) := by
  obtain ⟨word, question, mark, typed, decorated⟩ := body
  simpa [Field.decorate] using Field.Body.mk word question mark typed (decorated.snoc derives)

end Field.Body

namespace FieldPrefix

/-- The tokens that the beginning of a field may have come from. -/
inductive Reads : List Token → FieldPrefix → Prop where
  | afterName {name : Token} (word : name.kind = .identifier) :
      Reads [name] (.afterName { name := name.text, position := name.position })
  | afterQuestion {name mark : Token} (word : name.kind = .identifier)
      (question : mark.kind = .question) :
      Reads [name, mark] (.afterQuestion ⟨name.text, name.position, true⟩)
  | afterColon {hs : List Token} {head : FieldHead} (opening : FieldHead.Derives hs head) :
      Reads hs (.afterColon head)
  | afterMember {hs us : List Token} {head : FieldHead} {members : List String}
      (opening : FieldHead.Derives hs head) (strings : Separated .pipe Member us members) :
      Reads (hs ++ us) (.afterMember head members)
  | afterUnionBar {hs us : List Token} {bar : Token} {head : FieldHead} {members : List String}
      (opening : FieldHead.Derives hs head) (strings : Separated .pipe Member us members)
      (pipe : bar.kind = .pipe) : Reads (hs ++ us ++ [bar]) (.afterUnionBar head members)
  | afterType {hs : List Token} {name : Token} {head : FieldHead}
      (opening : FieldHead.Derives hs head)
      (word : name.kind = .identifier) : Reads (hs ++ [name]) (.afterType head name.text)
  | afterNullBar {hs : List Token} {name bar : Token} {head : FieldHead}
      (opening : FieldHead.Derives hs head) (word : name.kind = .identifier)
      (pipe : bar.kind = .pipe) :
      Reads (hs ++ [name, bar]) (.afterNullBar head name.text)
  | afterNull {hs ns : List Token} {name : Token} {head : FieldHead}
      (opening : FieldHead.Derives hs head) (word : name.kind = .identifier)
      (nulls : NullMark ns true) :
      Reads (hs ++ name :: ns) (.afterNull head name.text)
  | afterBracket {hs ns : List Token} {name l : Token} {head : FieldHead} {isNullable : Bool}
      (opening : FieldHead.Derives hs head) (word : name.kind = .identifier)
      (nulls : NullMark ns isNullable) (left : l.kind = .leftBracket) :
      Reads (hs ++ name :: (ns ++ [l])) (.afterBracket head name.text isNullable)
  | complete {ts : List Token} {field : Field} (body : Field.Body ts field) :
      Reads ts (.complete field)
  | afterAt {ts : List Token} {sign : Token} {field : Field} (body : Field.Body ts field)
      (kind : sign.kind = .atSign) : Reads (ts ++ [sign]) (.afterAt field sign.position)
  | afterDecorator {ts : List Token} {sign name : Token} {field : Field}
      (body : Field.Body ts field) (kind : sign.kind = .atSign) (word : name.kind = .identifier) :
      Reads (ts ++ [sign, name]) (.afterDecorator field ⟨name.text, [], sign.position⟩)
  | afterParen {ts : List Token} {sign name l : Token} {field : Field} (body : Field.Body ts field)
      (kind : sign.kind = .atSign) (word : name.kind = .identifier) (left : l.kind = .leftParen) :
      Reads (ts ++ [sign, name, l]) (.afterParen field ⟨name.text, [], sign.position⟩)
  | afterArgument {ts ls : List Token} {sign name l : Token} {field : Field}
      {literals : List Literal}
      (body : Field.Body ts field) (kind : sign.kind = .atSign) (word : name.kind = .identifier)
      (left : l.kind = .leftParen) (inside : Separated .comma Literal.Derives ls literals) :
      Reads (ts ++ sign :: name :: l :: ls)
        (.afterArgument field ⟨name.text, literals, sign.position⟩)
  | afterComma {ts ls : List Token} {sign name l m : Token} {field : Field}
      {literals : List Literal}
      (body : Field.Body ts field) (kind : sign.kind = .atSign) (word : name.kind = .identifier)
      (left : l.kind = .leftParen) (inside : Separated .comma Literal.Derives ls literals)
      (between : m.kind = .comma) :
      Reads (ts ++ sign :: name :: l :: (ls ++ [m]))
        (.afterComma field ⟨name.text, literals, sign.position⟩)

variable {ts : List Token} {read next : FieldPrefix} {field : Field} {t : Token}

/-- Where a field may end, the tokens derive its body. -/
lemma Reads.body (h : Reads ts read) (closed : read.closed? = some field) :
    Field.Body ts field := by
  cases h with
  | afterMember opening strings =>
    cases closed
    exact .plain opening (.union strings)
  | afterType opening word =>
    cases closed
    exact .plain opening (.named word .absent .absent)
  | afterNull opening word nulls =>
    cases closed
    simpa using Field.Body.plain opening (.named word nulls .absent)
  | complete body =>
    cases closed
    exact body
  | afterDecorator body kind word =>
    cases closed
    exact body.decorate (.mk kind word .absent)
  | _ => cases closed

/-- A step of the reader reads one token more. -/
lemma Reads.step (h : Reads ts read) (hs : Step read t next) : Reads (ts ++ [t]) next := by
  cases hs with
  | question kind =>
    cases h with
    | afterName word => exact .afterQuestion word kind
  | colon kind =>
    cases h with
    | afterName word => exact .afterColon (.mk word .absent kind)
  | colonAfterQuestion kind =>
    cases h with
    | afterQuestion word question => exact .afterColon (.mk word (.present question) kind)
  | firstMember kind =>
    cases h with
    | afterColon opening => exact .afterMember opening (.one ⟨kind, rfl⟩)
  | typeName kind =>
    cases h with
    | afterColon opening => exact .afterType opening kind
  | unionBar kind =>
    cases h with
    | afterMember opening strings => exact .afterUnionBar opening strings kind
  | nextMember kind =>
    cases h with
    | afterUnionBar opening strings pipe =>
      simpa using Reads.afterMember opening (strings.snoc pipe ⟨kind, rfl⟩)
  | nullBar kind =>
    cases h with
    | afterType opening word => simpa using Reads.afterNullBar opening word kind
  | null kind text =>
    cases h with
    | afterNullBar opening word pipe =>
      simpa using Reads.afterNull opening word (.present pipe kind text)
  | bracket kind =>
    cases h with
    | afterType opening word => simpa using Reads.afterBracket opening word .absent kind
  | bracketAfterNull kind =>
    cases h with
    | afterNull opening word nulls => simpa using Reads.afterBracket opening word nulls kind
  | closeBracket kind =>
    cases h with
    | afterBracket opening word nulls left =>
      simpa using Reads.complete (.plain opening (.named word nulls (.present left kind)))
  | atSign closed kind => exact .afterAt (h.body closed) kind
  | decoratorName kind =>
    cases h with
    | afterAt body sign => simpa using Reads.afterDecorator body sign kind
  | paren kind =>
    cases h with
    | afterDecorator body sign word => simpa using Reads.afterParen body sign word kind
  | noArguments kind =>
    cases h with
    | afterParen body sign word left =>
      simpa using Reads.complete (body.decorate (.mk sign word (.empty left kind)))
  | firstArgument literal =>
    cases h with
    | afterParen body sign word left =>
      simpa [Decorator.push] using Reads.afterArgument body sign word left (.one literal)
  | comma kind =>
    cases h with
    | afterArgument body sign word left inside =>
      simpa using Reads.afterComma body sign word left inside kind
  | nextArgument literal =>
    cases h with
    | afterComma body sign word left inside between =>
      simpa [Decorator.push] using Reads.afterArgument body sign word left
        (inside.snoc between literal)
  | closeParen kind =>
    cases h with
    | afterArgument body sign word left inside =>
      simpa using Reads.complete (body.decorate (.mk sign word (.given left inside kind)))

end FieldPrefix

namespace Prefix

/-- The tokens that the beginning of a document may have come from. -/
inductive Reads : List Token → Prefix → Prop where
  | betweenModels {ts : List Token} {models : List Model} (document : Document ts models) :
      Reads ts (.betweenModels models)
  | afterModel {ts : List Token} {opening : Token} {models : List Model}
      (document : Document ts models)
      (model : opening.kind = .model) : Reads (ts ++ [opening]) (.afterModel models)
  | afterName {ts : List Token} {opening name : Token} {models : List Model}
      (document : Document ts models) (model : opening.kind = .model)
      (word : name.kind = .identifier) :
      Reads (ts ++ [opening, name]) (.afterName models ⟨name.text, name.position, []⟩)
  | inModel {ts fs : List Token} {opening name l : Token} {models : List Model}
      {fields : List Field} (document : Document ts models) (model : opening.kind = .model)
      (word : name.kind = .identifier)
      (left : l.kind = .leftBrace) (inside : Many Field.Derives fs fields) :
      Reads (ts ++ opening :: name :: l :: fs) (.inModel models ⟨name.text, name.position, fields⟩)
  | inField {ts fs us : List Token} {opening name l : Token} {models : List Model}
      {fields : List Field}
      {read : FieldPrefix} (document : Document ts models) (model : opening.kind = .model)
      (word : name.kind = .identifier) (left : l.kind = .leftBrace)
      (inside : Many Field.Derives fs fields) (field : FieldPrefix.Reads us read) :
      Reads (ts ++ opening :: name :: l :: (fs ++ us))
        (.inField models ⟨name.text, name.position, fields⟩ read)

variable {ts us : List Token} {read next : Prefix} {t : Token}

/-- A step of the reader reads one token more. -/
lemma Reads.step (h : Reads ts read) (hs : Step read t next) : Reads (ts ++ [t]) next := by
  cases hs with
  | model kind =>
    cases h with
    | betweenModels document => exact .afterModel document kind
  | name kind =>
    cases h with
    | afterModel document model => simpa using Reads.afterName document model kind
  | leftBrace kind =>
    cases h with
    | afterName document model word => simpa using Reads.inModel document model word kind .nil
  | rightBrace kind =>
    cases h with
    | inModel document model word left inside =>
      simpa using Reads.betweenModels (Many.snoc document (.mk model word left inside kind))
  | fieldName kind =>
    cases h with
    | inModel document model word left inside =>
      simpa using Reads.inField document model word left inside (.afterName kind)
  | inside step =>
    cases h with
    | inField document model word left inside field =>
      simpa using Reads.inField document model word left inside (field.step step)
  | semicolon closed kind =>
    cases h with
    | inField document model word left inside field =>
      simpa using Reads.inModel document model word left
        (inside.snoc (.mk (field.body closed) kind))

/-- A prefix that has been read has come from the tokens of the run.

**Proof sketch.** Induction on the run, one step at a time. -/
lemma reads_of_run (h : Reads us read) (hr : read.run ts = .ok next) : Reads (us ++ ts) next := by
  induction ts generalizing us read with
  | nil =>
    cases hr
    simpa using h
  | cons t ts ih =>
    rw [run_cons] at hr
    obtain ⟨mid, hs, hr⟩ := Outcome.bind_eq_ok.1 hr
    have := ih (h.step (step_eq_ok.1 hs)) hr
    rwa [List.append_assoc, List.singleton_append] at this

end Prefix

/-! ## What is read from a derivation -/

namespace FieldPrefix

/-- The beginning of a field after a run of tokens. -/
def run (read : FieldPrefix) (ts : List Token) : Except CompileError FieldPrefix :=
  ts.foldlM step read

variable {ts us : List Token} {read next : FieldPrefix} {head : FieldHead} {field : Field}
    {t : Token}

/-- A token that makes a longer prefix is read before the others. -/
lemma run_cons (h : Step read t next) (ts : List Token) : read.run (t :: ts) = next.run ts := by
  unfold run
  rw [List.foldlM_cons, step_eq_ok.2 h]
  rfl

/-- A token that makes a longer prefix, alone. -/
lemma run_single (h : Step read t next) : read.run [t] = .ok next := run_cons h []

/-- Tokens that have been read come before the others. -/
lemma run_append (h : read.run ts = .ok next) (us : List Token) :
    read.run (ts ++ us) = next.run us := by
  unfold run at h ⊢
  rw [List.foldlM_append, h]
  rfl

/-- The members of a union are read one after another. -/
lemma run_of_members {members : List String} (h : Separated .pipe Member ts members) :
    (afterColon head).run ts = .ok (.afterMember head members) := by
  induction h with
  | one first =>
    obtain ⟨kind, rfl⟩ := first
    exact run_single (.firstMember kind)
  | snoc before between last ih =>
    obtain ⟨kind, rfl⟩ := last
    rw [run_append ih, run_cons (.unionBar between)]
    exact run_single (.nextMember kind)

/-- A type is read to a place where the field may end. -/
lemma run_of_type {type : FieldType} (h : FieldType.Derives ts type) :
    ∃ read, (afterColon head).run ts = .ok read ∧ read.closed? = some (head.field type) := by
  cases h with
  | union strings => exact ⟨_, run_of_members strings, rfl⟩
  | named word nulls brackets =>
    rw [run_cons (.typeName word)]
    cases nulls with
    | absent =>
      cases brackets with
      | absent => exact ⟨_, rfl, rfl⟩
      | present left right =>
        rw [List.nil_append, run_cons (.bracket left)]
        exact ⟨_, run_single (.closeBracket right), rfl⟩
    | present pipe kind text =>
      rw [List.cons_append, run_cons (.nullBar pipe), List.cons_append, run_cons (.null kind text),
        List.nil_append]
      cases brackets with
      | absent => exact ⟨_, rfl, rfl⟩
      | present left right =>
        rw [run_cons (.bracketAfterNull left)]
        exact ⟨_, run_single (.closeBracket right), rfl⟩

/-- The literals of a decorator are read one after another. -/
lemma run_of_literals {decorator : Decorator} {literals : List Literal}
    (hd : decorator.arguments = []) (h : Separated .comma Literal.Derives ts literals) :
    (afterParen field decorator).run ts =
      .ok (.afterArgument field { decorator with arguments := literals }) := by
  induction h with
  | one first =>
    rw [run_single (.firstArgument first), Decorator.push, hd]
    rfl
  | snoc before between last ih =>
    rw [run_append ih, run_cons (.comma between), run_single (.nextArgument last)]
    rfl

/-- A decorator is read from one place where the field may end to another. -/
lemma run_of_decorator {decorator : Decorator} (closed : read.closed? = some field)
    (h : Decorator.Derives ts decorator) :
    ∃ next, read.run ts = .ok next ∧ next.closed? = some (field.decorate decorator) := by
  obtain ⟨kind, word, args⟩ := h
  rw [run_cons (.atSign closed kind), run_cons (.decoratorName word)]
  cases args with
  | absent => exact ⟨_, rfl, rfl⟩
  | empty left right =>
    rw [run_cons (.paren left)]
    exact ⟨_, run_single (.noArguments right), rfl⟩
  | given left inside right =>
    rw [run_cons (.paren left), run_append (run_of_literals rfl inside)]
    exact ⟨_, run_single (.closeParen right), rfl⟩

/-- Decorators are read one after another. -/
lemma run_of_decorators {decorators : List Decorator} (closed : read.closed? = some field)
    (h : Many Decorator.Derives ts decorators) :
    ∃ next, read.run ts = .ok next ∧
      next.closed? = some { field with decorators := field.decorators ++ decorators } := by
  induction h generalizing read field with
  | nil => exact ⟨read, rfl, by simpa using closed⟩
  | cons first rest ih =>
    obtain ⟨mid, hmid, hclosed⟩ := run_of_decorator closed first
    obtain ⟨next, hnext, hclosed'⟩ := ih hclosed
    rw [run_append hmid]
    exact ⟨next, hnext, by simpa [Field.decorate] using hclosed'⟩

/-- What stands before the type of a field is read after its name. -/
lemma run_of_head {name : Token} (h : FieldHead.Derives (name :: ts) head) :
    (afterName { name := name.text, position := name.position }).run ts =
      .ok (.afterColon head) := by
  cases h with
  | mk word question mark =>
    cases question with
    | absent => exact run_single (.colon mark)
    | present kind =>
      rw [List.singleton_append, run_cons (.question kind)]
      exact run_single (.colonAfterQuestion mark)

/-- The body of a field is read from its name to a place where the field may end. -/
lemma run_of_body {name : Token} (h : Field.Body (name :: ts) field) :
    ∃ next, (afterName { name := name.text, position := name.position }).run ts = .ok next ∧
      next.closed? = some field := by
  cases h with
  | @mk _ colon qs ts ds isOptional type decorators word question mark typed decorated =>
    have hhead := run_of_head (.mk word question mark)
    -- the type may stand after any head, so this one has to be named
    have htype : ∃ mid, (afterColon ⟨name.text, name.position, isOptional⟩).run ts = .ok mid ∧
        mid.closed? = some (FieldHead.field ⟨name.text, name.position, isOptional⟩ type) :=
      run_of_type typed
    obtain ⟨mid, hmid, hclosed⟩ := htype
    obtain ⟨next, hnext, hclosed'⟩ := run_of_decorators hclosed decorated
    refine ⟨next, ?_, hclosed'⟩
    rw [← List.singleton_append, ← List.append_assoc, run_append hhead, run_append hmid, hnext]

end FieldPrefix

namespace Prefix

variable {ts us : List Token} {read next : Prefix} {t : Token} {models : List Model} {model : Model}

/-- A token that makes a longer prefix is read before the others. -/
lemma run_cons_of_step (h : Step read t next) (ts : List Token) :
    read.run (t :: ts) = next.run ts := by
  rw [run_cons, step_eq_ok.2 h]
  rfl

/-- Tokens that have been read come before the others. -/
lemma run_append_of_run (h : read.run ts = .ok next) (us : List Token) :
    read.run (ts ++ us) = next.run us := by
  rw [run_append, h]
  rfl

/-- A run inside a field is a run of the document. -/
lemma run_inField {read next : FieldPrefix} (h : read.run ts = .ok next) :
    (inField models model read).run ts = .ok (.inField models model next) := by
  induction ts generalizing read with
  | nil =>
    cases h
    rfl
  | cons t ts ih =>
    obtain ⟨mid, hs, h⟩ := Outcome.bind_eq_ok.1 h
    rw [run_cons_of_step (.inside (FieldPrefix.step_eq_ok.1 hs))]
    exact ih h

/-- Fields are read one after another. -/
lemma run_of_fields {fields : List Field} (h : Many Field.Derives ts fields) :
    (inModel models model).run ts =
      .ok (.inModel models { model with fields := model.fields ++ fields }) := by
  induction h generalizing model with
  | nil => simp
  | cons first rest ih =>
    obtain ⟨body, semicolon⟩ := first
    cases body with
    | mk word question mark typed decorated =>
      obtain ⟨read, hread, hclosed⟩ :=
        FieldPrefix.run_of_body (.mk word question mark typed decorated)
      rw [List.append_assoc, List.cons_append, run_cons_of_step (.fieldName word),
        run_append_of_run (run_inField hread), List.singleton_append,
        run_cons_of_step (.semicolon hclosed semicolon), ih]
      simp

/-- Tokens that derive models are read to these models. -/
lemma run_of_document {declared : List Model} (h : Document ts declared) :
    (betweenModels models).run ts = .ok (.betweenModels (models ++ declared)) := by
  induction h generalizing models with
  | nil => simp
  | cons first rest ih =>
    obtain ⟨model, word, left, inside, right⟩ := first
    rw [List.cons_append, run_cons_of_step (.model model), List.cons_append,
      run_cons_of_step (.name word), List.cons_append, run_cons_of_step (.leftBrace left),
      List.append_assoc, run_append_of_run (run_of_fields inside), List.singleton_append,
      run_cons_of_step (.rightBrace right), ih]
    simp

/-- A run from the start is at the end of a model exactly when the tokens derive the models so
far. -/
theorem run_eq_ok_iff :
    (betweenModels []).run ts = .ok (.betweenModels models) ↔ Document ts models := by
  constructor
  · intro h
    cases reads_of_run (.betweenModels .nil) h with
    | betweenModels document => exact document
  · exact run_of_document

/-- Parentheses around nothing and no parentheses at all give a decorator the same arguments. -/
example :
    Document
      [⟨.model, "model", ⟨1, 1⟩⟩, ⟨.identifier, "A", ⟨1, 7⟩⟩, ⟨.leftBrace, "\x7b", ⟨1, 9⟩⟩,
        ⟨.identifier, "b", ⟨2, 1⟩⟩, ⟨.colon, ":", ⟨2, 2⟩⟩, ⟨.identifier, "C", ⟨2, 4⟩⟩,
        ⟨.atSign, "@", ⟨2, 6⟩⟩, ⟨.identifier, "show", ⟨2, 7⟩⟩,
        ⟨.atSign, "@", ⟨2, 12⟩⟩, ⟨.identifier, "show", ⟨2, 13⟩⟩, ⟨.leftParen, "(", ⟨2, 17⟩⟩,
        ⟨.rightParen, ")", ⟨2, 18⟩⟩, ⟨.semicolon, ";", ⟨2, 19⟩⟩, ⟨.rightBrace, "\x7d", ⟨3, 1⟩⟩]
      [⟨"A", ⟨1, 7⟩, [⟨"b", ⟨2, 1⟩, { base := .model "C" },
        [⟨"show", [], ⟨2, 6⟩⟩, ⟨"show", [], ⟨2, 12⟩⟩], false⟩]⟩] :=
  run_eq_ok_iff.1 (by decide +kernel)

end Prefix

/-! ## Documents -/

namespace Model

/-- What tokens that end with an end of input declare is decided by those up to the first one. -/
lemma ofTokens_of_getLast? {tokens : List Token} {last : Token}
    (hlast : tokens.getLast? = some last) (hend : last.kind = .endOfInput) :
    ofTokens tokens =
      (Prefix.betweenModels []).run (tokens.takeWhile fun t => !isEnd t) >>=
        Prefix.finish ((tokens.find? isEnd).getD last) := by
  unfold ofTokens
  simp [hlast, isEnd, hend]

/-- What tokens with one end declare. -/
lemma ofTokens_concat {tokens : List Token} {stop : Token} (h : ∀ t ∈ tokens, t.kind ≠ .endOfInput)
    (hstop : stop.kind = .endOfInput) :
    ofTokens (tokens ++ [stop]) = (Prefix.betweenModels []).run tokens >>= Prefix.finish stop := by
  have hopen : ∀ t ∈ tokens, (!isEnd t) = true := fun t ht => by simpa [isEnd] using h t ht
  have hfind : (tokens ++ [stop]).find? isEnd = some stop :=
    List.find?_eq_some_iff_append.2 ⟨by simp [isEnd, hstop], tokens, [], rfl, hopen⟩
  rw [ofTokens_of_getLast? List.getLast?_concat hstop, hfind, List.takeWhile_append_of_pos hopen]
  simp [isEnd, hstop]

/-- **The reader accepts exactly the grammar.** A list of tokens that ends with an end of input
declares models when the tokens before its first end of input derive them, and it is rejected
otherwise; any other list is rejected; and tokens derive at most one list of models.

**Proof sketch.** The reader goes over the tokens before the first end of input. Each of its steps
keeps track of a derivation, and each derivation is read step by step. Since reading is a function,
derivations are unique. -/
theorem ofTokens_accepts_grammar :
    (∀ tokens last, tokens.getLast? = some last → last.kind = .endOfInput → ∀ models,
      ofTokens tokens = .ok models ↔
        Document (tokens.takeWhile fun token => token.kind != .endOfInput) models) ∧
    (∀ tokens, (∀ last, tokens.getLast? = some last → last.kind ≠ .endOfInput) →
      ∃ e, ofTokens tokens = .error e) ∧
    ∀ tokens models models', Document tokens models → Document tokens models' →
      models = models' := by
  refine ⟨fun tokens last hlast hkind models => ?_, fun tokens hlast => ?_,
    fun tokens models models' h h' => ?_⟩
  · unfold ofTokens
    rw [hlast]
    simp only [isEnd, hkind, beq_self_eq_true, if_true]
    rw [Outcome.bind_eq_ok, ← Prefix.run_eq_ok_iff]
    constructor
    · rintro ⟨read, hread, hfinish⟩
      cases read <;> cases hfinish
      exact hread
    · intro h
      exact ⟨_, h, rfl⟩
  · unfold ofTokens
    cases h : tokens.getLast? with
    | none => exact ⟨_, rfl⟩
    | some last =>
      have := hlast last h
      simp [isEnd, this]
  · rw [← Prefix.run_eq_ok_iff] at h h'
    rw [h] at h'
    cases h'
    rfl

end Model

end ModelSchema
