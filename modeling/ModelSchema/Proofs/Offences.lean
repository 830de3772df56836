import Mathlib.Logic.Relation
import ModelSchema.Proofs.Cycles
import ModelSchema.Proofs.Rejection
import ModelSchema.Proofs.Scanning

set_option autoImplicit false

/-!
# Where resolution fails

A document that is read but cannot be resolved offends somewhere: a model has a wrong name, a field
has a name or a type that it cannot have or bounds that are the wrong way round, or a decorator has
the wrong arguments. The error points at the token with which the name, the field or the decorator
begins.

## Main definitions

* `Model.NamedBy`, `Field.OpenedBy`, `Decorator.SignedBy` — the token that a model, a field or a
  decorator is placed at.
* `CompileError.PointsAt` — what an error says is so at a token of the document.

## Main results

* `CompileError.exists_pointsAt_of_checkAll`, `CompileError.exists_pointsAt_of_resolve`,
  `CompileError.exists_pointsAt_of_resolveRoot` — the errors of the checks, of an expansion and of
  both point at tokens of the document.
* `compile_error_points_at_offence` — so does every error of a resolution that has a place.
-/

namespace ModelSchema

open Grammar

/-! ## Places in a document -/

/-- A token is the name of a model, directly after the word that opens it. The models `earlier`
stand before it. -/
inductive Model.NamedBy (tokens : List Token) (earlier : List Model) (name : Token) : Prop where
  | mk {before after : List Token} {opening : Token}
      (split : tokens = before ++ opening :: name :: after)
      (document : Document before earlier) (model : opening.kind = .model)
      (word : name.kind = .identifier)

/-- A token opens the statement of a field in a model of a name. The fields `earlier` stand before
it in that model. -/
inductive Field.OpenedBy (tokens : List Token) (model : String) (earlier : List Field)
    (field : Field) (name : Token) : Prop where
  | mk {before fs ts after : List Token} {models : List Model} {opening modelName left : Token}
      (split : tokens = before ++ opening :: modelName :: left :: (fs ++ (name :: (ts ++ after))))
      (document : Document before models) (kind : opening.kind = .model)
      (modelWord : modelName.kind = .identifier)
      (modelText : modelName.text = model) (brace : left.kind = .leftBrace)
      (inside : Many Field.Derives fs earlier)
      (word : name.kind = .identifier) (statement : Field.Derives (name :: ts) field)

/-- A token is the at sign of a decorator, whose name and arguments follow. -/
inductive Decorator.SignedBy (tokens : List Token) (decorator : Decorator) (sign : Token) :
    Prop where
  | mk {before ts after : List Token} {name : Token}
      (split : tokens = before ++ sign :: name :: (ts ++ after))
      (kind : sign.kind = .atSign) (word : name.kind = .identifier)
      (text : name.text = decorator.name) (args : Arguments ts decorator.arguments)

section Places

variable {ts : List Token} {models : List Model} {model : Model} {field : Field}

/-- Every model of a document is named by a token. -/
lemma Model.exists_namedBy {earlier later : List Model}
    (h : Document ts (earlier ++ model :: later)) (rest : List Token) :
    ∃ name, NamedBy (ts ++ rest) earlier name ∧ model.name = name.text ∧
      model.position = name.position := by
  obtain ⟨us, vs, ws, rfl, hearlier, hmodel, -⟩ := Many.exists_of_append_cons h
  cases hmodel with
  | @mk opening name l r fs fields kind word left inside right =>
    have split : us ++ (opening :: name :: l :: (fs ++ [r]) ++ ws) ++ rest =
        us ++ opening :: name :: (l :: (fs ++ [r]) ++ ws ++ rest) := by simp
    exact ⟨name, .mk split hearlier kind word, rfl, rfl⟩

/-- The statement of a field begins with its name. -/
lemma Field.Derives.exists_eq_cons (h : Field.Derives ts field) :
    ∃ name us, ts = name :: us ∧ name.kind = .identifier ∧ field.name = name.text ∧
      field.position = name.position := by
  obtain ⟨⟨word, question, mark, typed, decorated⟩, semicolon⟩ := h
  exact ⟨_, _, List.cons_append, word, rfl, rfl⟩

/-- Every field of a document is opened by a token. -/
lemma Field.exists_openedBy {earlier later : List Field} (h : Document ts models)
    (hm : model ∈ models) (hf : model.fields = earlier ++ field :: later) (rest : List Token) :
    ∃ name, OpenedBy (ts ++ rest) model.name earlier field name := by
  obtain ⟨before, after, rfl⟩ := List.append_of_mem hm
  obtain ⟨us, vs, ws, rfl, hbefore, hmodel, -⟩ := Many.exists_of_append_cons h
  cases hmodel with
  | @mk opening modelName l r fs fields kind word left inside right =>
    obtain rfl : fields = earlier ++ field :: later := hf
    obtain ⟨gs, vs, hs, rfl, hearlier, hfield, -⟩ := inside.exists_of_append_cons
    obtain ⟨name, vs, rfl, fieldWord, -, -⟩ := hfield.exists_eq_cons
    have split : us ++ (opening :: modelName :: l :: (gs ++ (name :: vs ++ hs) ++ [r]) ++ ws) ++
        rest = us ++ opening :: modelName :: l ::
          (gs ++ (name :: (vs ++ (hs ++ [r] ++ ws ++ rest)))) := by simp
    exact ⟨name, .mk split hbefore kind word rfl left hearlier fieldWord hfield⟩

/-- A field of a document is opened by a token with its name. -/
lemma Field.exists_openedBy_of_mem (h : Document ts models) (hm : model ∈ models)
    (hf : field ∈ model.fields) (rest : List Token) :
    ∃ earlier name, OpenedBy (ts ++ rest) model.name earlier field name := by
  obtain ⟨earlier, later, hfields⟩ := List.append_of_mem hf
  exact ⟨earlier, exists_openedBy h hm hfields rest⟩

/-- Every decorator of a field stands somewhere in its statement. -/
lemma Field.Derives.exists_of_mem_decorators {decorator : Decorator} (h : Field.Derives ts field)
    (hd : decorator ∈ field.decorators) :
    ∃ us vs ws, ts = us ++ (vs ++ ws) ∧ Decorator.Derives vs decorator := by
  cases h with
  | @mk _ stop _ body semicolon =>
    cases body with
    | @mk name colon qs us ds isOptional type decorators word question mark typed decorated =>
      obtain ⟨xs, vs, ws, rfl, hdecorator⟩ := decorated.exists_of_mem hd
      exact ⟨name :: (qs ++ colon :: (us ++ xs)), vs, ws ++ [stop], by simp, hdecorator⟩

/-- Every decorator of a field has an at sign. -/
lemma Decorator.exists_signedBy {tokens : List Token} {modelName : String} {earlier : List Field}
    {name : Token} {decorator : Decorator} (h : Field.OpenedBy tokens modelName earlier field name)
    (hd : decorator ∈ field.decorators) :
    ∃ sign, SignedBy tokens decorator sign ∧ decorator.position = sign.position := by
  cases h with
  | @mk before fs ts after models opening modelName left split _ _ _ _ _ _ _ statement =>
    obtain ⟨us, vs, ws, hts, hdecorator⟩ := statement.exists_of_mem_decorators hd
    have hstatement : name :: (ts ++ after) = us ++ (vs ++ ws) ++ after := by
      rw [← hts, List.cons_append]
    rw [hstatement] at split
    cases hdecorator with
    | @mk sign name vs arguments kind word args =>
      have split : tokens = (before ++ opening :: modelName :: left :: (fs ++ us)) ++
          sign :: name :: (vs ++ (ws ++ after)) := by simp [split]
      exact ⟨sign, .mk split kind word rfl args, rfl⟩

/-- A field is named by the token that opens it. -/
lemma Field.OpenedBy.name_eq {tokens : List Token} {modelName : String} {earlier : List Field}
    {name : Token} (h : Field.OpenedBy tokens modelName earlier field name) :
    field.name = name.text ∧ field.position = name.position := by
  obtain ⟨-, -, -, -, -, -, -, -, statement⟩ := h
  obtain ⟨_, _, hts, -, hname, hposition⟩ := statement.exists_eq_cons
  cases hts
  exact ⟨hname, hposition⟩

end Places

/-! ## What is said about a place -/

/-- What an error says is so at a token of a document that declares `models`:

* the token names a model, and its name is reserved, or that of an earlier model;
* it opens a field, and its name is that of an earlier field of the same model, or the type of the
  field is not declared, or it is the last model of a path that comes from the enclosing one, or the
  numbers of the last decorators for its bounds are the wrong way round;
* it is the at sign of a decorator whose arguments are not admitted. -/
inductive CompileError.PointsAt (tokens : List Token) (models : List Model) (token : Token) :
    CompileError → Prop where
  | reservedName {earlier : List Model} (place : Model.NamedBy tokens earlier token)
      (reserved : isReserved token.text = true) :
      PointsAt tokens models token (.reservedName token.text token.position)
  | duplicateModel {earlier : List Model} (place : Model.NamedBy tokens earlier token)
      (again : token.text ∈ earlier.map Model.name) :
      PointsAt tokens models token (.duplicateModel token.text token.position)
  | duplicateField {model : String} {earlier : List Field} {field : Field}
      (place : Field.OpenedBy tokens model earlier field token)
      (again : token.text ∈ earlier.map Field.name) :
      PointsAt tokens models token (.duplicateField model token.text token.position)
  | undefinedType {model type : String} {earlier : List Field} {field : Field}
      (place : Field.OpenedBy tokens model earlier field token)
      (typed : field.type.base = .model type) (missing : type ∉ models.map Model.name) :
      PointsAt tokens models token (.undefinedType type token.text token.position)
  | recursiveNesting {model last : String} {path : List String} {earlier : List Field}
      {field : Field} (place : Field.OpenedBy tokens model earlier field token)
      (typed : field.type.base = .model last)
      (source : path.dropLast.getLast? = some model) (target : path.getLast? = some last) :
      PointsAt tokens models token (.recursiveNesting path token.position)
  | invertedBounds {model : String} {earlier : List Field} {field : Field} {lower upper : Decorator}
      {lo hi : UInt64} (place : Field.OpenedBy tokens model earlier field token)
      (lowest : field.last? "min" = some lower) (min : lower.arguments = [.number lo])
      (highest : field.last? "max" = some upper) (max : upper.arguments = [.number hi])
      (inverted : hi < lo) :
      PointsAt tokens models token (.invertedBounds token.text lo hi token.position)
  | illegalArguments {decorator : Decorator} {rule : ArgumentRule}
      (place : Decorator.SignedBy tokens decorator token) (illegal : ¬ decorator.IsLegal) :
      PointsAt tokens models token
        (.illegalArguments decorator.name rule decorator.arguments token.position)

/-- The error of a root that is not there has no place. -/
lemma Catalog.position?_of_root_eq_error {catalog : Catalog} {selection : RootSelection}
    {e : CompileError} (h : catalog.root selection = .error e) : e.position? = none := by
  unfold Catalog.root at h
  split at h <;> split at h <;> cases h <;> rfl

namespace CompileError

variable {tokens ts : List Token} {models : List Model} {token : Token} {e : CompileError}

/-- An error points at the place of a token. -/
lemma PointsAt.position?_eq (h : e.PointsAt tokens models token) :
    e.position? = some token.position := by
  cases h <;> rfl

/-- An error points at a token of the document. -/
lemma PointsAt.mem (h : e.PointsAt tokens models token) : token ∈ tokens := by
  cases h with
  | reservedName place | duplicateModel place =>
    obtain ⟨rfl, -, -, -⟩ := place
    simp
  | illegalArguments place =>
    obtain ⟨rfl, -, -, -, -⟩ := place
    simp
  | _ place =>
    obtain ⟨rfl, -, -, -, -, -, -, -, -⟩ := place
    simp

/-- What is wrong with the declarations is so at a token. -/
theorem exists_pointsAt_of_checkAll (h : Document ts models) (he : Model.checkAll models = .error e)
    (rest : List Token) : ∃ token, e.PointsAt (ts ++ rest) models token := by
  rcases Model.checkAll_eq_error.1 he with he | ⟨-, before, model, after, hsplit, -, he⟩
  · obtain ⟨earlier, model, later, rfl, -, hoffence⟩ := Model.checkNames_eq_error.1 he
    obtain ⟨name, hname, htext, hposition⟩ := Model.exists_namedBy h rest
    rw [htext, hposition, List.append_nil] at hoffence
    rcases hoffence with ⟨hreserved, rfl⟩ | ⟨-, hagain, rfl⟩
    · exact ⟨name, .reservedName hname hreserved⟩
    · exact ⟨name, .duplicateModel hname hagain⟩
  · have hm : model ∈ models := by simp [hsplit]
    obtain ⟨earlier, field, later, hfields, -, hoffence⟩ := Model.checkFields_eq_error.1 he
    obtain ⟨name, hname⟩ := Field.exists_openedBy h hm hfields rest
    obtain ⟨htext, hposition⟩ := hname.name_eq
    rw [htext, hposition, List.append_nil] at hoffence
    rcases hoffence with ⟨hagain, rfl⟩ | ⟨-, type, htype, hmissing, rfl⟩
    · exact ⟨name, .duplicateField hname hagain⟩
    · exact ⟨name, .undefinedType hname htype hmissing⟩

/-- What makes an expansion fail is so at a token: at the reference that closes a cycle, or at a
field that is not sound. -/
theorem exists_pointsAt_of_resolve {catalog : Catalog} {root : Model}
    (h : Document ts catalog.models) (hroot : root ∈ catalog.models)
    (he : (catalog.resolve root).outcome = .error e) (rest : List Token) :
    ∃ token, e.PointsAt (ts ++ rest) catalog.models token := by
  rw [Catalog.resolve_eq] at he
  have hreached : ∀ x ∈ [root.name], Model.Reaches catalog.models root.name x := by
    intro x hx
    rw [List.mem_singleton.1 hx]
  rcases Catalog.expandFrom_error_cases (.single hroot) hreached he with
    ⟨report, position, rfl, hreport⟩ | ⟨model, hm, -, field, hf, hunsound, base, hsettle⟩
  · obtain ⟨model, hm, field, hf, last, hsource, htarget, htyped, rfl⟩ := hreport.closing
    obtain ⟨earlier, name, hname⟩ := Field.exists_openedBy_of_mem h hm hf rest
    rw [hname.name_eq.2]
    exact ⟨name, .recursiveNesting hname htyped hsource htarget⟩
  · obtain ⟨earlier, name, hname⟩ := Field.exists_openedBy_of_mem h hm hf rest
    rcases Field.settle_error hsettle with ⟨d, hd, hillegal, rule, rfl⟩ | ⟨lo, hi, hinverted, rfl⟩
    · obtain ⟨sign, hsign, hposition⟩ := Decorator.exists_signedBy hname hd
      rw [Decorator.illegal, hposition]
      exact ⟨sign, .illegalArguments hsign hillegal⟩
    · obtain ⟨lower, upper, hlower, hlo, hupper, hhi⟩ :=
        Field.exists_last?_of_settle_error hunsound hsettle
      rw [hname.name_eq.1, hname.name_eq.2]
      exact ⟨name, .invertedBounds hname hlower hlo hupper hhi hinverted⟩

/-- Whatever a resolution fails with is so at a token, unless it has no place. -/
theorem exists_pointsAt_of_resolveRoot {selection : RootSelection} (h : Document ts models)
    (he : (resolveRoot models selection).outcome = .error e) (hplace : e.position? ≠ none)
    (rest : List Token) : ∃ token, e.PointsAt (ts ++ rest) models token := by
  rw [resolveRoot_outcome] at he
  rcases Outcome.bind_eq_error.1 he with hchecks | ⟨catalog, hcatalog, hexpand⟩
  · exact exists_pointsAt_of_checkAll h (Catalog.ofModels_eq_error.1 hchecks) rest
  rw [← (Catalog.ofModels_eq_ok.1 hcatalog).2] at h ⊢
  rcases Outcome.bind_eq_error.1 hexpand with hmissing | ⟨root, hroot, hexpand⟩
  · exact absurd (Catalog.position?_of_root_eq_error hmissing) hplace
  rcases Outcome.bind_eq_error.1 hexpand with hresolve | ⟨schema, -, hdone⟩
  · exact exists_pointsAt_of_resolve h (Catalog.root_eq_ok.1 hroot).mem hresolve rest
  · cases hdone

end CompileError

/-! ## Errors before resolution -/

/-- Pieces without tokens include a number that is too large. -/
lemma Token.kind_of_ofPieces_eq_error {position : Position} {pieces : List Piece} {e : CompileError}
    (h : ofPieces position pieces = .error e) : e.kind = .lexing := by
  induction pieces generalizing position with
  | nil => cases h
  | cons piece pieces ih =>
    rcases Outcome.bind_eq_error.1 h with h | ⟨token?, -, h⟩
    · unfold Piece.token? at h
      split at h
      · split at h <;> cases h
        rfl
      · cases h
    · rcases Outcome.bind_eq_error.1 h with h | ⟨tokens, -, h⟩
      · exact ih h
      · cases h

/-- A text that is not cut into tokens has an error of that stage. -/
lemma Token.kind_of_ofText_eq_error {text : String} {e : CompileError}
    (h : ofText text = .error e) : e.kind = .lexing := by
  rcases Outcome.bind_eq_error.1 h with h | ⟨tokens, -, h⟩
  · exact kind_of_ofPieces_eq_error h
  · split at h <;> cases h
    rfl

/-- Tokens that declare no models are not rejected by resolution. -/
lemma Model.kind_of_ofTokens_eq_error {tokens : List Token} {e : CompileError}
    (h : ofTokens tokens = .error e) : e.kind ≠ .resolution := by
  have hunexpected {t : Token} (expected : Expectation)
      (he : e = t.unexpected expected ∨ e = .numberOutOfRange t.text t.position) :
      e.kind ≠ .resolution := by
    rcases he with rfl | rfl <;> exact nofun
  unfold ofTokens at h
  split at h
  · cases h
    exact nofun
  split at h
  · rcases Outcome.bind_eq_error.1 h with h | ⟨read, -, h⟩
    · obtain ⟨_, t, _, mid, -, -, hstep⟩ := Prefix.exists_of_run_eq_error h
      exact hunexpected _ ((Prefix.step_eq_error hstep).imp_right And.right)
    · exact hunexpected _ (.inl (Prefix.finish_eq_error h))
  · cases h
    exact nofun

/-- A text that declares no models is not rejected by resolution. -/
lemma Model.kind_of_ofText_eq_error {text : String} {e : CompileError}
    (h : ofText text = .error e) : e.kind ≠ .resolution := by
  rcases Outcome.bind_eq_error.1 h with h | ⟨tokens, -, h⟩
  · rw [Token.kind_of_ofText_eq_error h]
    exact nofun
  · exact kind_of_ofTokens_eq_error h

/-! ## Errors of a compilation -/

/-- **A resolution that fails somewhere points at the offence.** When a text is rejected by
resolution with an error that has a place, the text has tokens and declares models, and what the
error says is so at one of these tokens, which is at that place.

**Proof sketch.** The models derive from the tokens, so every model, field and decorator has a
token. The checks and the expansion report what they find at such a part of a model, and the error
of a root that is not there has no place. -/
theorem compile_error_points_at_offence (text : String) (options : CompileOptions)
    (e : CompileError) (position : Position) (h : compile text options = .error e)
    (hkind : e.kind = .resolution) (hposition : e.position? = some position) :
    ∃ tokens models token, Token.ofText text = .ok tokens ∧ Model.ofTokens tokens = .ok models ∧
      token ∈ tokens ∧ token.position = position ∧ e.PointsAt tokens models token := by
  rw [compile_eq] at h
  rcases Outcome.bind_eq_error.1 h with hread | ⟨models, hmodels, hresolve⟩
  · exact absurd hkind (Model.kind_of_ofText_eq_error hread)
  rcases Outcome.bind_eq_error.1 hresolve with he | ⟨result, -, hdone⟩
  · obtain ⟨ts, htokens, -, hrun⟩ := Model.exists_of_ofText hmodels
    have hread := hmodels
    rw [Model.ofText, htokens] at hread
    obtain ⟨token, hpoints⟩ :=
      CompileError.exists_pointsAt_of_resolveRoot (Prefix.run_eq_ok_iff.1 hrun) he
      (by simp [hposition]) [⟨.endOfInput, "", Position.start.advance text.toList⟩]
    have hplace := hpoints.position?_eq
    rw [hposition, Option.some.injEq] at hplace
    exact ⟨_, models, token, htokens, hread, hpoints.mem, hplace.symm, hpoints⟩
  · cases hdone

/-- A document whose second model has bounds that the last decorators turn the wrong way round. -/
def invertedText : String :=
  "model A \x7b b: B; \x7d\nmodel B \x7b n: number @min(1) @max(9) @min(7) @max(3); \x7d"

/-- The bounds are reported where the field begins that has them, although it is another model that
is compiled. -/
theorem compile_error_points_at_offence_inverted :
    compile invertedText { root := .named "A" } = .error (.invertedBounds "n" 7 3 ⟨2, 11⟩) ∧
    ∃ tokens models token, Token.ofText invertedText = .ok tokens ∧
      Model.ofTokens tokens = .ok models ∧ token ∈ tokens ∧ token.position = ⟨2, 11⟩ ∧
        (CompileError.invertedBounds "n" 7 3 ⟨2, 11⟩).PointsAt tokens models token := by
  have h : compile invertedText { root := .named "A" } =
      .error (.invertedBounds "n" 7 3 ⟨2, 11⟩) := by decide +kernel
  exact ⟨h, compile_error_points_at_offence _ _ _ _ h rfl rfl⟩

end ModelSchema
