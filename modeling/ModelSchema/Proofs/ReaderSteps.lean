import ModelSchema.Document.Reader
import ModelSchema.Proofs.Grammar
import ModelSchema.Proofs.Outcome

set_option autoImplicit false

/-!
# The steps of the reader

What a token makes of the beginning of a document, with one rule for each way to go on. Everything
about successful runs of the reader follows from these rules.

## Main definitions

* `FieldPrefix.Step`, `Prefix.Step` — the rules.

## Main results

* `FieldPrefix.step_eq_ok`, `Prefix.step_eq_ok` — the steps of the reader are those of the rules.
-/

namespace ModelSchema

/-! ## Steps inside a field -/

/-- A token spells exactly the literal that it derives. -/
lemma Literal.ofToken_eq_ok {t : Token} {l : Literal} :
    ofToken t = .ok l ↔ Literal.Derives t l := by
  constructor
  · intro h
    unfold ofToken at h
    split at h
    · next hk => cases h; exact .string hk
    · next hk =>
      split at h
      · next n hn => cases h; exact .number hk hn
      · cases h
    · next hk ht => cases h; exact .yes hk ht
    · next hk ht => cases h; exact .no hk ht
    · next hk ht => cases h; exact .null hk ht
    · cases h
  · rintro (hk | ⟨hk, hw⟩ | ⟨hk, ht⟩ | ⟨hk, ht⟩ | ⟨hk, ht⟩)
    · simp [ofToken, hk]
    · simp [ofToken, hk, hw]
    · simp [ofToken, hk, ht]
    · simp [ofToken, hk, ht]
    · simp [ofToken, hk, ht]

/-- A literal is a string, a number or an identifier. -/
lemma Literal.Derives.kind_mem {t : Token} {l : Literal} (h : Literal.Derives t l) :
    t.kind ∈ [TokenKind.string, .number, .identifier] := by
  rcases h with hk | ⟨hk, -⟩ | ⟨hk, -⟩ | ⟨hk, -⟩ | ⟨hk, -⟩ <;> simp [hk]

namespace FieldPrefix

/-- What a token makes of the beginning of a field. -/
inductive Step : FieldPrefix → Token → FieldPrefix → Prop where
  | question {head : FieldHead} {t : Token} (kind : t.kind = .question) :
      Step (.afterName head) t (.afterQuestion { head with isOptional := true })
  | colon {head : FieldHead} {t : Token} (kind : t.kind = .colon) :
      Step (.afterName head) t (.afterColon head)
  | colonAfterQuestion {head : FieldHead} {t : Token} (kind : t.kind = .colon) :
      Step (.afterQuestion head) t (.afterColon head)
  | firstMember {head : FieldHead} {t : Token} (kind : t.kind = .string) :
      Step (.afterColon head) t (.afterMember head [t.text])
  | typeName {head : FieldHead} {t : Token} (kind : t.kind = .identifier) :
      Step (.afterColon head) t (.afterType head t.text)
  | unionBar {head : FieldHead} {members : List String} {t : Token} (kind : t.kind = .pipe) :
      Step (.afterMember head members) t (.afterUnionBar head members)
  | nextMember {head : FieldHead} {members : List String} {t : Token} (kind : t.kind = .string) :
      Step (.afterUnionBar head members) t (.afterMember head (members ++ [t.text]))
  | nullBar {head : FieldHead} {type : String} {t : Token} (kind : t.kind = .pipe) :
      Step (.afterType head type) t (.afterNullBar head type)
  | null {head : FieldHead} {type : String} {t : Token} (kind : t.kind = .identifier)
      (text : t.text = "null") : Step (.afterNullBar head type) t (.afterNull head type)
  | bracket {head : FieldHead} {type : String} {t : Token} (kind : t.kind = .leftBracket) :
      Step (.afterType head type) t (.afterBracket head type false)
  | bracketAfterNull {head : FieldHead} {type : String} {t : Token} (kind : t.kind = .leftBracket) :
      Step (.afterNull head type) t (.afterBracket head type true)
  | closeBracket {head : FieldHead} {type : String} {isNullable : Bool} {t : Token}
      (kind : t.kind = .rightBracket) :
      Step (.afterBracket head type isNullable) t
        (.complete (head.field { base := .ofName type, isArray := true, isNullable }))
  | atSign {read : FieldPrefix} {field : Field} {t : Token} (closed : read.closed? = some field)
      (kind : t.kind = .atSign) : Step read t (.afterAt field t.position)
  | decoratorName {field : Field} {position : Position} {t : Token} (kind : t.kind = .identifier) :
      Step (.afterAt field position) t (.afterDecorator field ⟨t.text, [], position⟩)
  | paren {field : Field} {decorator : Decorator} {t : Token} (kind : t.kind = .leftParen) :
      Step (.afterDecorator field decorator) t (.afterParen field decorator)
  | noArguments {field : Field} {decorator : Decorator} {t : Token} (kind : t.kind = .rightParen) :
      Step (.afterParen field decorator) t (.complete (field.decorate decorator))
  | firstArgument {field : Field} {decorator : Decorator} {t : Token} {l : Literal}
      (literal : Literal.Derives t l) :
      Step (.afterParen field decorator) t (.afterArgument field (decorator.push l))
  | comma {field : Field} {decorator : Decorator} {t : Token} (kind : t.kind = .comma) :
      Step (.afterArgument field decorator) t (.afterComma field decorator)
  | nextArgument {field : Field} {decorator : Decorator} {t : Token} {l : Literal}
      (literal : Literal.Derives t l) :
      Step (.afterComma field decorator) t (.afterArgument field (decorator.push l))
  | closeParen {field : Field} {decorator : Decorator} {t : Token} (kind : t.kind = .rightParen) :
      Step (.afterArgument field decorator) t (.complete (field.decorate decorator))

variable {read next : FieldPrefix} {t : Token}

/-- The steps of the reader inside a field are those of the rules. -/
theorem step_eq_ok : read.step t = .ok next ↔ Step read t next := by
  constructor
  · intro h
    unfold step at h
    split at h
    · next head hk => cases h; exact .question hk
    · next head hk => cases h; exact .colon hk
    · next head hk => cases h; exact .colonAfterQuestion hk
    · next head hk => cases h; exact .firstMember hk
    · next head hk => cases h; exact .typeName hk
    · next head members hk => cases h; exact .unionBar hk
    · next head members hk => cases h; exact .nextMember hk
    · next head type hk => cases h; exact .nullBar hk
    · next head type hk => cases h; exact .bracket hk
    · next head type hk =>
      split at h
      · next ht => cases h; exact .null hk ht
      · cases h
    · next head type hk => cases h; exact .bracketAfterNull hk
    · next head type isNullable hk => cases h; exact .closeBracket hk
    · next field position hk => cases h; exact .decoratorName hk
    · next field decorator hk => cases h; exact .paren hk
    · next field decorator hk => cases h; exact .noArguments hk
    · next field decorator hk =>
      obtain ⟨l, hl, rfl⟩ := Outcome.map_eq_ok.1 h
      exact .firstArgument (Literal.ofToken_eq_ok.1 hl)
    · next field decorator hk => cases h; exact .comma hk
    · next field decorator hk => cases h; exact .closeParen hk
    · next field decorator hk =>
      obtain ⟨l, hl, rfl⟩ := Outcome.map_eq_ok.1 h
      exact .nextArgument (Literal.ofToken_eq_ok.1 hl)
    · next hk =>
      split at h
      · next field hc => cases h; exact .atSign hc hk
      · cases h
    · cases h
  · intro h
    cases h with
    | atSign closed kind =>
      -- an at sign is the only token for which several beginnings of a field share a rule
      cases read <;> simp only [closed?, reduceCtorEq] at closed <;> simp_all [step, closed?]
    | firstArgument literal | nextArgument literal =>
      have hl := Literal.ofToken_eq_ok.2 literal
      have hk := literal.kind_mem
      simp only [List.mem_cons, List.not_mem_nil, or_false] at hk
      rcases hk with hk | hk | hk <;> simp [step, hk, hl, Except.map]
    | null kind text => simp [step, kind, text]
    | _ kind => simp [step, kind]

/-- No field goes on with a semicolon. -/
lemma Step.kind_ne_semicolon (h : Step read t next) : t.kind ≠ .semicolon := by
  intro hs
  cases h with
  | firstArgument literal | nextArgument literal => simpa [hs] using literal.kind_mem
  | null kind | atSign _ kind | _ kind => simp [hs] at kind

end FieldPrefix

/-! ## Steps of a document -/

namespace Prefix

/-- What a token makes of the beginning of a document. -/
inductive Step : Prefix → Token → Prefix → Prop where
  | model {models : List Model} {t : Token} (kind : t.kind = .model) :
      Step (.betweenModels models) t (.afterModel models)
  | name {models : List Model} {t : Token} (kind : t.kind = .identifier) :
      Step (.afterModel models) t (.afterName models ⟨t.text, t.position, []⟩)
  | leftBrace {models : List Model} {model : Model} {t : Token} (kind : t.kind = .leftBrace) :
      Step (.afterName models model) t (.inModel models model)
  | rightBrace {models : List Model} {model : Model} {t : Token} (kind : t.kind = .rightBrace) :
      Step (.inModel models model) t (.betweenModels (models ++ [model]))
  | fieldName {models : List Model} {model : Model} {t : Token} (kind : t.kind = .identifier) :
      Step (.inModel models model) t
        (.inField models model (.afterName { name := t.text, position := t.position }))
  | inside {models : List Model} {model : Model} {read next : FieldPrefix} {t : Token}
      (step : FieldPrefix.Step read t next) :
      Step (.inField models model read) t (.inField models model next)
  | semicolon {models : List Model} {model : Model} {read : FieldPrefix} {field : Field} {t : Token}
      (closed : read.closed? = some field) (kind : t.kind = .semicolon) :
      Step (.inField models model read) t
        (.inModel models { model with fields := model.fields ++ [field] })

variable {read next : Prefix} {t : Token}

/-- The steps of the reader are those of the rules. -/
theorem step_eq_ok : read.step t = .ok next ↔ Step read t next := by
  constructor
  · intro h
    unfold step at h
    split at h
    · next models hk => cases h; exact .model hk
    · next models hk => cases h; exact .name hk
    · next models model hk => cases h; exact .leftBrace hk
    · next models model hk => cases h; exact .rightBrace hk
    · next models model hk => cases h; exact .fieldName hk
    · next models model read hk =>
      split at h
      · next field hc => cases h; exact .semicolon hc hk
      · obtain ⟨mid, hm, rfl⟩ := Outcome.map_eq_ok.1 h
        exact .inside (FieldPrefix.step_eq_ok.1 hm)
    · next models model read hk =>
      obtain ⟨mid, hm, rfl⟩ := Outcome.map_eq_ok.1 h
      exact .inside (FieldPrefix.step_eq_ok.1 hm)
    · cases h
  · intro h
    cases h with
    | inside hstep =>
      have hk := hstep.kind_ne_semicolon
      rw [← FieldPrefix.step_eq_ok] at hstep
      unfold step
      split <;> simp_all [Except.map]
    | semicolon closed kind => simp [step, kind, closed]
    | _ kind => simp [step, kind]

end Prefix

end ModelSchema
