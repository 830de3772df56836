import ModelSchema.Proofs.Agreement
import ModelSchema.Proofs.Reading

set_option autoImplicit false

/-!
# Documents elsewhere

Positions are carried along and never looked at: what is read from tokens that stand elsewhere is
what is read from the tokens, elsewhere. The models that have been read are not looked at either, so
a document may stand after others.

## Main definitions

* `Token.relocate`, `Model.relocate`, `CompileError.relocate` — the same with every position moved.
* `Prefix.relocate` — the beginning of a document, elsewhere and after some models.
* `Token.unplaced`, `Model.unplaced`, `CompileError.unplaced` — what is left without the positions.

## Main results

* `Prefix.step_relocate` — a step of the reader elsewhere.
* `Prefix.read_relocate` — reading a whole document elsewhere and after some models.
* `Model.agree_ofTokens` — tokens that differ in their positions alone declare models that do so.
-/

namespace ModelSchema

open Outcome

/-! ## Moving positions -/

section Moving

variable (move : Position → Position)

/-- A token elsewhere. -/
def Token.relocate (token : Token) : Token :=
  { token with position := move token.position }

/-- A decorator elsewhere. -/
def Decorator.relocate (decorator : Decorator) : Decorator :=
  { decorator with position := move decorator.position }

/-- A field elsewhere. -/
def Field.relocate (field : Field) : Field :=
  { field with
    position := move field.position
    decorators := field.decorators.map (Decorator.relocate move) }

/-- A model elsewhere. -/
def Model.relocate (model : Model) : Model :=
  { model with
    position := move model.position
    fields := model.fields.map (Field.relocate move) }

/-- What stands before the colon of a field, elsewhere. -/
def FieldHead.relocate (head : FieldHead) : FieldHead :=
  { head with position := move head.position }

/-- The beginning of a field, elsewhere. -/
def FieldPrefix.relocate : FieldPrefix → FieldPrefix
  | .afterName head => .afterName (head.relocate move)
  | .afterQuestion head => .afterQuestion (head.relocate move)
  | .afterColon head => .afterColon (head.relocate move)
  | .afterMember head members => .afterMember (head.relocate move) members
  | .afterUnionBar head members => .afterUnionBar (head.relocate move) members
  | .afterType head type => .afterType (head.relocate move) type
  | .afterNullBar head type => .afterNullBar (head.relocate move) type
  | .afterNull head type => .afterNull (head.relocate move) type
  | .afterBracket head type isNullable => .afterBracket (head.relocate move) type isNullable
  | .complete field => .complete (field.relocate move)
  | .afterAt field position => .afterAt (field.relocate move) (move position)
  | .afterDecorator field decorator =>
    .afterDecorator (field.relocate move) (decorator.relocate move)
  | .afterParen field decorator => .afterParen (field.relocate move) (decorator.relocate move)
  | .afterArgument field decorator => .afterArgument (field.relocate move) (decorator.relocate move)
  | .afterComma field decorator => .afterComma (field.relocate move) (decorator.relocate move)

/-- The beginning of a document, elsewhere and after the models `before`. -/
def Prefix.relocate (before : List Model) : Prefix → Prefix
  | .betweenModels models => .betweenModels (before ++ models.map (Model.relocate move))
  | .afterModel models => .afterModel (before ++ models.map (Model.relocate move))
  | .afterName models model =>
    .afterName (before ++ models.map (Model.relocate move)) (model.relocate move)
  | .inModel models model =>
    .inModel (before ++ models.map (Model.relocate move)) (model.relocate move)
  | .inField models model read =>
    .inField (before ++ models.map (Model.relocate move)) (model.relocate move) (read.relocate move)

/-- An error elsewhere, if it has a place. -/
def CompileError.relocate : CompileError → CompileError
  | .unexpectedCharacter found p => .unexpectedCharacter found (move p)
  | .numberOutOfRange text p => .numberOutOfRange text (move p)
  | .unexpectedToken expected found p => .unexpectedToken expected found (move p)
  | .undefinedType type field p => .undefinedType type field (move p)
  | .recursiveNesting path p => .recursiveNesting path (move p)
  | .duplicateModel name p => .duplicateModel name (move p)
  | .duplicateField model field p => .duplicateField model field (move p)
  | .reservedName name p => .reservedName name (move p)
  | .illegalArguments decorator rule arguments p =>
    .illegalArguments decorator rule arguments (move p)
  | .invertedBounds field min max p => .invertedBounds field min max (move p)
  | .emptyDocument => .emptyDocument
  | .unknownRoot name => .unknownRoot name

end Moving

/-- A token without its position. -/
def Token.unplaced (token : Token) : Token :=
  token.relocate fun _ => .start

/-- A decorator without its position. -/
def Decorator.unplaced (decorator : Decorator) : Decorator :=
  decorator.relocate fun _ => .start

/-- A field without the positions of its parts. -/
def Field.unplaced (field : Field) : Field :=
  field.relocate fun _ => .start

/-- A model without the positions of its parts. -/
def Model.unplaced (model : Model) : Model :=
  model.relocate fun _ => .start

/-- An error without its position. -/
def CompileError.unplaced (error : CompileError) : CompileError :=
  error.relocate fun _ => .start

/-- Tokens that differ in their positions alone have in common what does not depend on positions. -/
lemma Token.map_eq_of_unplaced {β : Type} {f : Token → β} (hf : ∀ t, f (unplaced t) = f t)
    {ts us : List Token} (h : ts.map unplaced = us.map unplaced) : ts.map f = us.map f := by
  have hmap := congrArg (List.map f) h
  simpa only [List.map_map, Function.comp_def, hf] using hmap

variable {move : Position → Position}

/-! ## Reading fields elsewhere -/

/-- A decorated field elsewhere is the field elsewhere, decorated. -/
@[simp]
lemma Field.relocate_decorate (field : Field) (decorator : Decorator) :
    (field.decorate decorator).relocate move =
      (field.relocate move).decorate (decorator.relocate move) := by
  simp [Field.relocate, Field.decorate]

/-- The literal of a token does not depend on where the token stands. -/
lemma Literal.ofToken_relocate (token : Token) :
    ofToken (token.relocate move) = bimap (CompileError.relocate move) id (ofToken token) := by
  obtain ⟨kind, text, position⟩ := token
  cases kind with
  | number =>
    simp only [ofToken, Token.relocate]
    cases Text.readWord? text.toList <;> rfl
  | identifier =>
    by_cases hyes : text = "true"
    · subst hyes
      rfl
    by_cases hno : text = "false"
    · subst hno
      rfl
    by_cases hnull : text = "null"
    · subst hnull
      rfl
    simp [ofToken, Token.relocate, hyes, hno, hnull, Token.unexpected, CompileError.relocate]
  | _ => rfl

namespace FieldPrefix

/-- After an opening parenthesis, a token that does not close it is an argument. -/
lemma step_afterParen {field : Field} {decorator : Decorator} {token : Token}
    (h : token.kind ≠ .rightParen) : (afterParen field decorator).step token =
      (Literal.ofToken token).map fun literal => afterArgument field (decorator.push literal) := by
  obtain ⟨kind, text, position⟩ := token
  cases kind <;> first | rfl | exact absurd rfl h

/-- After a comma, a token is an argument. -/
lemma step_afterComma (field : Field) (decorator : Decorator) (token : Token) :
    (afterComma field decorator).step token =
      (Literal.ofToken token).map fun literal => afterArgument field (decorator.push literal) := by
  obtain ⟨kind, text, position⟩ := token
  cases kind <;> rfl

/-- A further argument does not depend on where its token stands. -/
lemma argument_relocate (field : Field) (decorator : Decorator) (token : Token) :
    (Literal.ofToken (token.relocate move)).map
        (fun literal =>
          afterArgument (field.relocate move) ((decorator.relocate move).push literal)) =
      bimap (CompileError.relocate move) (relocate move)
        ((Literal.ofToken token).map fun literal =>
          afterArgument field (decorator.push literal)) := by
  rw [Literal.ofToken_relocate]
  cases Literal.ofToken token <;> rfl

/-- What a token makes of the beginning of a field does not depend on where they stand.

**Proof sketch.** After most beginnings the kind of the token decides, and both sides compute to the
same. The others look at the text of the token as well, or they put a decorator into the field. -/
lemma step_relocate (read : FieldPrefix) (token : Token) :
    (read.relocate move).step (token.relocate move) =
      bimap (CompileError.relocate move) (relocate move) (read.step token) := by
  cases read
  case afterParen field decorator =>
    by_cases hk : token.kind = .rightParen
    · simp [step, relocate, Token.relocate, hk]
    · rw [relocate, step_afterParen hk,
        step_afterParen (show (token.relocate move).kind ≠ .rightParen from hk)]
      exact argument_relocate field decorator token
  case afterComma field decorator =>
    rw [relocate, step_afterComma, step_afterComma]
    exact argument_relocate field decorator token
  all_goals obtain ⟨kind, text, position⟩ := token
  case afterNullBar head type =>
    cases kind
    case identifier =>
      by_cases hnull : text = "null" <;>
        simp [step, relocate, Token.relocate, hnull, Token.unexpected, CompileError.relocate]
    all_goals rfl
  case afterDecorator field decorator =>
    cases kind
    case atSign => simp [step, relocate, closed?, Token.relocate]
    all_goals rfl
  case afterArgument field decorator =>
    cases kind
    case rightParen => simp [step, relocate, Token.relocate]
    all_goals rfl
  all_goals cases kind <;> rfl

/-- The field that a prefix closes elsewhere is the one it closes, elsewhere. -/
lemma closed?_relocate (read : FieldPrefix) :
    (read.relocate move).closed? = read.closed?.map (Field.relocate move) := by
  cases read
  case afterDecorator field decorator => simp [relocate, closed?]
  all_goals rfl

/-- What may come next does not depend on where a prefix stands. -/
lemma expected_relocate (read : FieldPrefix) : (read.relocate move).expected = read.expected := by
  cases read <;> rfl

end FieldPrefix

/-! ## Reading documents elsewhere -/

namespace Prefix

variable {before : List Model}

/-- Inside a field, a token that does not close it goes on with the field. -/
lemma step_inField {models : List Model} {model : Model} {read : FieldPrefix} {token : Token}
    (h : token.kind = .semicolon → read.closed? = none) :
    (inField models model read).step token = (read.step token).map (.inField models model) := by
  by_cases hk : token.kind = .semicolon
  · simp [step, hk, h hk]
  · unfold step
    split <;> simp_all

/-- What a token makes of the beginning of a document does not depend on where they stand and on the
models before. -/
lemma step_relocate (read : Prefix) (token : Token) :
    (read.relocate move before).step (token.relocate move) =
      bimap (CompileError.relocate move) (relocate move before) (read.step token) := by
  cases read
  case inField models model read =>
    by_cases h : token.kind = .semicolon → read.closed? = none
    · have h' : (token.relocate move).kind = .semicolon → (read.relocate move).closed? = none := by
        rw [FieldPrefix.closed?_relocate, Option.map_eq_none_iff]
        exact h
      rw [relocate, step_inField h, step_inField h', FieldPrefix.step_relocate]
      cases read.step token <;> rfl
    · obtain ⟨hk, hc⟩ := Classical.not_imp.1 h
      obtain ⟨field, hc⟩ := Option.ne_none_iff_exists'.1 hc
      simp [step, relocate, Token.relocate, hk, FieldPrefix.closed?_relocate, hc, Model.relocate]
  all_goals obtain ⟨kind, text, position⟩ := token
  case inModel models model =>
    cases kind
    case rightBrace => simp [step, relocate, Token.relocate]
    all_goals rfl
  all_goals cases kind <;> rfl

/-- A run of tokens elsewhere. -/
lemma run_relocate (read : Prefix) (tokens : List Token) :
    (read.relocate move before).run (tokens.map (Token.relocate move)) =
      bimap (CompileError.relocate move) (relocate move before) (read.run tokens) := by
  induction tokens generalizing read with
  | nil => rfl
  | cons token tokens ih =>
    rw [List.map_cons, run_cons, run_cons, step_relocate]
    exact (bimap_bind fun next => (ih next).symm).symm

/-- The end of a document elsewhere. -/
lemma finish_relocate (read : Prefix) (stop : Token) :
    (read.relocate move before).finish (stop.relocate move) =
      bimap (CompileError.relocate move) (before ++ ·.map (Model.relocate move))
        (read.finish stop) := by
  cases read
  case inField models model read =>
    simp [finish, relocate, expected, FieldPrefix.expected_relocate, Token.unexpected,
      Token.relocate, CompileError.relocate]
  all_goals rfl

/-- Reading a document elsewhere and after some models: the models before it are there unchanged,
and its own ones are those of the document, elsewhere. -/
theorem read_relocate (move : Position → Position) (before : List Model) (tokens : List Token)
    (stop : Token) :
    ((betweenModels before).run (tokens.map (Token.relocate move)) >>=
        finish (stop.relocate move)) =
      bimap (CompileError.relocate move) (before ++ ·.map (Model.relocate move))
        ((betweenModels []).run tokens >>= finish stop) := by
  have hstart : betweenModels before = (betweenModels []).relocate move before := by
    simp [relocate]
  rw [hstart, run_relocate]
  exact (bimap_bind fun read => (finish_relocate read stop).symm).symm

end Prefix

namespace Model

/-- Tokens that differ in their positions alone declare models that differ in their positions
alone. -/
theorem agree_ofTokens {tokens tokens' : List Token} {stop stop' : Token}
    (h : ∀ t ∈ tokens, t.kind ≠ .endOfInput) (hstop : stop.kind = .endOfInput)
    (heq : tokens.map Token.unplaced = tokens'.map Token.unplaced)
    (hstops : stop.unplaced = stop'.unplaced) :
    Agree (fun e e' => e.unplaced = e'.unplaced)
      (fun models models' => models.map Model.unplaced = models'.map Model.unplaced)
      (ofTokens (tokens ++ [stop])) (ofTokens (tokens' ++ [stop'])) := by
  have hkinds : tokens.map Token.kind = tokens'.map Token.kind :=
    Token.map_eq_of_unplaced (fun _ => rfl) heq
  have h' : ∀ t ∈ tokens', t.kind ≠ .endOfInput := by
    intro t' ht' hend
    have hmem : t'.kind ∈ tokens.map Token.kind := hkinds ▸ List.mem_map_of_mem ht'
    obtain ⟨t, ht, hsame⟩ := List.mem_map.1 hmem
    exact h t ht (hsame.trans hend)
  have hstop' : stop'.kind = .endOfInput := (Token.mk.inj hstops).1.symm.trans hstop
  refine agree_of_bimap_eq ?_
  rw [ofTokens_concat h hstop, ofTokens_concat h' hstop']
  have hread := Prefix.read_relocate (fun _ => .start) [] tokens stop
  have hread' := Prefix.read_relocate (fun _ => .start) [] tokens' stop'
  refine hread.symm.trans (Eq.trans ?_ hread')
  change (Prefix.run _ (tokens.map Token.unplaced) >>= Prefix.finish stop.unplaced) = _
  rw [heq, hstops]
  rfl

end Model

end ModelSchema
