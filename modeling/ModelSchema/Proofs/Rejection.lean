import Mathlib.Data.List.TakeWhile
import ModelSchema.Proofs.Reading

set_option autoImplicit false

/-!
# Rejected tokens

The reader complains about the first token that cannot stand where it does. What it has read before
that token is the beginning of a document, whichever way the text goes on, and nothing that follows
the token can mend it.

## Main definitions

* `FieldPrefix.completion`, `Prefix.completion` — tokens that complete the beginning of a field or
  of a document.
* `Token.IsTooLarge` — a number that spells no word.
* `Prefix.Rejects` — a token cannot stand after the beginning of a document.

## Main results

* `Prefix.step_eq_error`, `Prefix.exists_of_run_eq_error` — the errors of a step and of a run.
* `Prefix.exists_run_completion` — every beginning of a document can be completed.
* `Model.ofTokens_eq_error_iff` — tokens are rejected when one of them is.
* `Model.ofTokens_error_is_first` — the reported token is the first one with which no document can
  go on.
-/

namespace ModelSchema

/-! ## Errors of the reader -/

/-- A number that spells no word. -/
def Token.IsTooLarge (t : Token) : Prop :=
  t.kind = .number ∧ Text.readWord? t.text.toList = none

/-- A token that spells no literal is an unexpected token or a number that is too large. -/
lemma Literal.ofToken_eq_error {t : Token} {e : CompileError} (h : ofToken t = .error e) :
    e = t.unexpected .literal ∨ t.IsTooLarge ∧ e = .numberOutOfRange t.text t.position := by
  unfold ofToken at h
  split at h
  case h_2 hkind =>
    split at h
    · cases h
    · next hvalue =>
      cases h
      exact .inr ⟨⟨hkind, hvalue⟩, rfl⟩
  all_goals cases h
  exact .inl rfl

/-- A token that does not go on with a field is unexpected, or it is a number that is too large. -/
lemma FieldPrefix.step_eq_error {read : FieldPrefix} {t : Token} {e : CompileError}
    (h : read.step t = .error e) :
    e = t.unexpected read.expected ∨ t.IsTooLarge ∧ e = .numberOutOfRange t.text t.position := by
  unfold step at h
  split at h
  case h_10 =>
    split at h <;> cases h
    exact .inl rfl
  case h_16 | h_19 => exact Literal.ofToken_eq_error (Outcome.map_eq_error.1 h)
  case h_20 =>
    split at h <;> cases h
    exact .inl rfl
  all_goals cases h
  exact .inl rfl

namespace Prefix

variable {read : Prefix} {t stop : Token} {ts : List Token} {e : CompileError}

/-- A token that does not go on with a document is unexpected, or it is a number that is too
large. -/
lemma step_eq_error (h : read.step t = .error e) :
    e = t.unexpected read.expected ∨ t.IsTooLarge ∧ e = .numberOutOfRange t.text t.position := by
  unfold step at h
  split at h
  case h_6 =>
    split at h
    · cases h
    · exact FieldPrefix.step_eq_error (Outcome.map_eq_error.1 h)
  case h_7 => exact FieldPrefix.step_eq_error (Outcome.map_eq_error.1 h)
  all_goals cases h
  exact .inl rfl

/-- An end of input inside a declaration is unexpected. -/
lemma finish_eq_error (h : read.finish stop = .error e) : e = stop.unexpected read.expected := by
  unfold finish at h
  split at h <;> cases h
  rfl

/-- A run of tokens fails at the first token that does not go on with the document. -/
lemma exists_of_run_eq_error (h : read.run ts = .error e) :
    ∃ before t after mid, ts = before ++ t :: after ∧ read.run before = .ok mid ∧
      mid.step t = .error e :=
  Outcome.exists_of_foldlM_eq_error h

end Prefix

/-! ## Completions -/

/-- A token of a kind, wherever it stands. -/
def TokenKind.token (kind : TokenKind) : Token :=
  ⟨kind, "", .start⟩

namespace FieldPrefix

/-- Tokens after which a field may end. -/
def completion : FieldPrefix → List Token
  | .afterName _ | .afterQuestion _ => [TokenKind.colon.token, TokenKind.identifier.token]
  | .afterColon _ | .afterAt _ _ => [TokenKind.identifier.token]
  | .afterUnionBar _ _ => [TokenKind.string.token]
  | .afterNullBar _ _ => [⟨.identifier, "null", .start⟩]
  | .afterBracket _ _ _ => [TokenKind.rightBracket.token]
  | .afterParen _ _ | .afterArgument _ _ => [TokenKind.rightParen.token]
  | .afterComma _ _ => [TokenKind.string.token, TokenKind.rightParen.token]
  | .afterMember _ _ | .afterType _ _ | .afterNull _ _ | .complete _ | .afterDecorator _ _ => []

/-- Every beginning of a field is brought to a place where the field may end. -/
lemma exists_run_completion (read : FieldPrefix) :
    ∃ next field, read.run read.completion = .ok next ∧ next.closed? = some field := by
  cases read with
  | afterNullBar head type => exact ⟨_, _, run_single (.null rfl rfl), rfl⟩
  | _ => exact ⟨_, _, rfl, rfl⟩

end FieldPrefix

namespace Prefix

/-- Tokens that complete the beginning of a document. -/
def completion : Prefix → List Token
  | .betweenModels _ => []
  | .afterModel _ =>
    [TokenKind.identifier.token, TokenKind.leftBrace.token, TokenKind.rightBrace.token]
  | .afterName _ _ => [TokenKind.leftBrace.token, TokenKind.rightBrace.token]
  | .inModel _ _ => [TokenKind.rightBrace.token]
  | .inField _ _ read => read.completion ++ [TokenKind.semicolon.token, TokenKind.rightBrace.token]

/-- Every beginning of a document can be completed. -/
lemma exists_run_completion (read : Prefix) :
    ∃ models, read.run read.completion = .ok (.betweenModels models) := by
  cases read with
  | inField models model read =>
    obtain ⟨next, field, hrun, hclosed⟩ := read.exists_run_completion
    refine ⟨models ++ [{ model with fields := model.fields ++ [field] }], ?_⟩
    rw [completion, run_append_of_run (run_inField hrun), run_cons_of_step (.semicolon hclosed rfl),
      run_cons_of_step (.rightBrace rfl), run_nil]
  | _ => exact ⟨_, rfl⟩

/-- A completion does not end the input. -/
lemma kind_ne_endOfInput_of_mem_completion {read : Prefix} {t : Token} (h : t ∈ read.completion) :
    t.kind ≠ .endOfInput := by
  have hfield (read : FieldPrefix) : ∀ t ∈ read.completion, t.kind ≠ .endOfInput := by
    cases read <;> simp [FieldPrefix.completion, TokenKind.token]
  have hall : ∀ t ∈ read.completion, t.kind ≠ .endOfInput := by
    cases read with
    | inField models model read =>
      rw [completion, List.forall_mem_append]
      exact ⟨hfield read, by simp [TokenKind.token]⟩
    | _ => simp [completion, TokenKind.token]
  exact hall t h

end Prefix

/-! ## The first wrong token -/

/-- A token cannot stand after the beginning of a document: it does not go on with the document, or
it ends the input inside a declaration. -/
inductive Prefix.Rejects (read : Prefix) (t : Token) (e : CompileError) : Prop where
  | inside (kind : t.kind ≠ .endOfInput) (step : read.step t = .error e)
  | atEnd (kind : t.kind = .endOfInput) (finish : read.finish t = .error e)

/-- The error of a rejected token tells its kind and its place, unless it is a number that is too
large. -/
lemma Prefix.Rejects.error_eq {read : Prefix} {t : Token} {e : CompileError}
    (h : read.Rejects t e) :
    e = t.unexpected read.expected ∨ e = .numberOutOfRange t.text t.position := by
  cases h with
  | inside _ step => exact (step_eq_error step).imp_right And.right
  | atEnd _ finish => exact .inl (finish_eq_error finish)

namespace Model

variable {tokens : List Token} {last : Token} {e : CompileError}

/-- Tokens that end with an end of input have a first one. -/
lemma exists_dropWhile_eq_cons (hlast : tokens.getLast? = some last)
    (hend : last.kind = .endOfInput) :
    ∃ stop after, tokens.dropWhile (fun t => !isEnd t) = stop :: after ∧ stop.kind = .endOfInput ∧
      tokens.find? isEnd = some stop := by
  cases hdrop : tokens.dropWhile fun t => !isEnd t with
  | nil =>
    have hlast' := List.dropWhile_eq_nil_iff.1 hdrop last (List.mem_of_getLast? hlast)
    simp [isEnd, hend] at hlast'
  | cons stop after =>
    have hfind : tokens.find? isEnd = some stop := by
      rw [List.find?_eq_head?_dropWhile_not, hdrop, List.head?_cons]
    have hstop := List.find?_some hfind
    exact ⟨stop, after, rfl, by simpa [isEnd] using hstop, hfind⟩

/-- Tokens that end with an end of input are rejected at one of them: those before it are no end and
begin a document, after which this one cannot stand.

**Proof sketch.** The run over the tokens before the first end fails at one of them, or the first
end is rejected. Conversely a rejected token is among those that are looked at, whatever comes after
it. -/
theorem ofTokens_eq_error_iff (hlast : tokens.getLast? = some last)
    (hend : last.kind = .endOfInput) :
    ofTokens tokens = .error e ↔
      ∃ before t after read, tokens = before ++ t :: after ∧ (∀ u ∈ before, u.kind ≠ .endOfInput) ∧
        (Prefix.betweenModels []).run before = .ok read ∧ read.Rejects t e := by
  rw [ofTokens_of_getLast? hlast hend]
  constructor
  · intro h
    obtain ⟨stop, after, hdrop, hstop, hfind⟩ := exists_dropWhile_eq_cons hlast hend
    have htokens := List.takeWhile_append_dropWhile (p := fun t => !isEnd t) (l := tokens)
    have hinside : ∀ u ∈ tokens.takeWhile (fun t => !isEnd t), u.kind ≠ .endOfInput := by
      intro u hu
      simpa [isEnd] using List.mem_takeWhile_imp hu
    rw [hdrop] at htokens
    generalize tokens.takeWhile (fun t => !isEnd t) = inside at h htokens hinside
    rw [hfind, Option.getD_some] at h
    rcases Outcome.bind_eq_error.1 h with h | ⟨read, hread, hfinish⟩
    · obtain ⟨before, t, between, read, rfl, hread, hstep⟩ := Prefix.exists_of_run_eq_error h
      refine ⟨before, t, between ++ stop :: after, read, ?_, ?_, hread,
        .inside (hinside t (by simp)) hstep⟩
      · rw [← htokens, List.append_assoc, List.cons_append]
      · exact fun u hu => hinside u (by simp [hu])
    · exact ⟨inside, stop, after, read, htokens.symm, hinside, hread, .atEnd hstop hfinish⟩
  · rintro ⟨before, t, after, read, rfl, hbefore, hread, hrejects⟩
    have hopen : ∀ u ∈ before, (!isEnd u) = true := fun u hu => by simpa [isEnd] using hbefore u hu
    rw [List.takeWhile_append_of_pos hopen]
    cases hrejects with
    | inside kind step =>
      have ht : isEnd t = false := by simpa [isEnd] using kind
      rw [List.takeWhile_cons_of_pos (by simp [ht]), Prefix.run_append_of_run hread,
        Prefix.run_cons, step]
      rfl
    | atEnd kind finish =>
      have ht : isEnd t = true := by simpa [isEnd] using kind
      have hfind : (before ++ t :: after).find? isEnd = some t :=
        List.find?_eq_some_iff_append.2 ⟨ht, before, after, rfl, hopen⟩
      rw [List.takeWhile_cons_of_neg (by simp [ht]), List.append_nil, hread, hfind]
      exact finish

/-- The beginning of a document is that of a document which is accepted. -/
lemma exists_ofTokens_append {before : List Token} {read : Prefix}
    (hbefore : ∀ t ∈ before, t.kind ≠ .endOfInput)
    (hread : (Prefix.betweenModels []).run before = .ok read) :
    ∃ further models, ofTokens (before ++ further) = .ok models := by
  obtain ⟨models, hmodels⟩ := read.exists_run_completion
  have hopen : ∀ t ∈ before ++ read.completion, t.kind ≠ .endOfInput :=
    List.forall_mem_append.2 ⟨hbefore, fun _ => Prefix.kind_ne_endOfInput_of_mem_completion⟩
  refine ⟨read.completion ++ [TokenKind.endOfInput.token], models, ?_⟩
  rw [← List.append_assoc, ofTokens_concat hopen rfl, Prefix.run_append_of_run hread, hmodels]
  rfl

/-- **A wrong token is rejected at once.** When tokens that end with an end of input are rejected
for a token that cannot stand where it does, there is such a token among them, of the reported kind
and at the reported place. No end of input stands before it; what stands before it can be completed
to a document that is accepted; and all tokens that end with an end of input and agree up to it are
rejected with the very same error. -/
theorem ofTokens_error_is_first (tokens : List Token) (last : Token)
    (hlast : tokens.getLast? = some last) (hend : last.kind = .endOfInput)
    (expected : Expectation) (found : TokenKind) (position : Position)
    (h : ofTokens tokens = .error (.unexpectedToken expected found position)) :
    ∃ before token after, tokens = before ++ token :: after ∧ (∀ t ∈ before, t.kind ≠ .endOfInput) ∧
      token.kind = found ∧ token.position = position ∧
      (∃ further models, ofTokens (before ++ further) = .ok models) ∧
      ∀ other last', (before ++ token :: other).getLast? = some last' → last'.kind = .endOfInput →
        ofTokens (before ++ token :: other) =
          .error (.unexpectedToken expected found position) := by
  obtain ⟨before, token, after, read, rfl, hbefore, hread, hrejects⟩ :=
    (ofTokens_eq_error_iff hlast hend).1 h
  obtain ⟨hfound, hposition⟩ : token.kind = found ∧ token.position = position := by
    rcases hrejects.error_eq with he | he
    · cases he
      exact ⟨rfl, rfl⟩
    · cases he
  refine ⟨before, token, after, rfl, hbefore, hfound, hposition,
    exists_ofTokens_append hbefore hread, ?_⟩
  intro other last' hlast' hend'
  exact (ofTokens_eq_error_iff hlast' hend').2 ⟨before, token, other, read, rfl, hbefore, hread,
    hrejects⟩

/-! ### An end where an argument is missing -/

/-- Two ends of input, the first of which stands after the comma behind an argument. -/
def unfinished : List Token :=
  [⟨.model, "model", ⟨1, 1⟩⟩, ⟨.identifier, "A", ⟨1, 7⟩⟩, ⟨.leftBrace, "\x7b", ⟨1, 9⟩⟩,
    ⟨.identifier, "b", ⟨1, 11⟩⟩, ⟨.colon, ":", ⟨1, 12⟩⟩, ⟨.identifier, "C", ⟨1, 14⟩⟩,
    ⟨.atSign, "@", ⟨1, 16⟩⟩, ⟨.identifier, "enum", ⟨1, 17⟩⟩, ⟨.leftParen, "(", ⟨1, 21⟩⟩,
    ⟨.number, "1", ⟨1, 22⟩⟩, ⟨.comma, ",", ⟨1, 23⟩⟩, ⟨.endOfInput, "", ⟨1, 24⟩⟩,
    ⟨.rightParen, ")", ⟨1, 24⟩⟩, ⟨.semicolon, ";", ⟨1, 25⟩⟩, ⟨.rightBrace, "\x7d", ⟨1, 26⟩⟩,
    ⟨.endOfInput, "", ⟨1, 27⟩⟩]

/-- The first end is the wrong token: it stands where the argument is missing, whatever follows
it. -/
theorem ofTokens_error_is_first_unfinished :
    unfinished.getLast? = some ⟨.endOfInput, "", ⟨1, 27⟩⟩ ∧
    ofTokens unfinished = .error (.unexpectedToken .literal .endOfInput ⟨1, 24⟩) ∧
    ∃ before token after, unfinished = before ++ token :: after ∧
      (∀ t ∈ before, t.kind ≠ .endOfInput) ∧
      token.kind = .endOfInput ∧ token.position = ⟨1, 24⟩ ∧
      (∃ further models, ofTokens (before ++ further) = .ok models) ∧
      ∀ other last', (before ++ token :: other).getLast? = some last' → last'.kind = .endOfInput →
        ofTokens (before ++ token :: other) =
          .error (.unexpectedToken .literal .endOfInput ⟨1, 24⟩) := by
  have hlast : unfinished.getLast? = some ⟨.endOfInput, "", ⟨1, 27⟩⟩ := rfl
  have hrejected : ofTokens unfinished =
      .error (.unexpectedToken .literal .endOfInput ⟨1, 24⟩) := by decide +kernel
  exact ⟨hlast, hrejected, ofTokens_error_is_first unfinished _ hlast rfl _ _ _ hrejected⟩

end Model

end ModelSchema
