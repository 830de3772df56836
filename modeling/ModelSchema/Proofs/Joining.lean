import ModelSchema.Proofs.Relocation
import ModelSchema.Proofs.Scanning

set_option autoImplicit false

/-!
# Documents one after another

A document may follow another one on a new line. It declares the same models there, or it fails with
the same error, only further down.

## Main definitions

* `Position.below` — a position some lines further down.

## Main results

* `Token.readFrom_relocate` — a text has the same tokens elsewhere.
* `Token.readFrom_append_newline` — the tokens of a text stay when another text follows on a new
  line.
* `Model.ofText_join` — what two texts declare together.
* `Model.ofText_joins` — documents compose.
-/

namespace ModelSchema

open Outcome Lexing

/-! ## Texts elsewhere -/

/-- A position some lines further down. -/
def Position.below (lines : Nat) (p : Position) : Position :=
  ⟨p.line + lines, p.column⟩

/-- Moving down by lines goes together with reading a character. -/
lemma Position.next_below (lines : Nat) (p : Position) (c : Char) :
    (p.below lines).next c = (p.next c).below lines := by
  unfold next below
  split
  · rw [Nat.add_right_comm]
  · rfl

/-- The line after a text is one below those that the line feeds of the text end. -/
lemma Position.next_advance_start (cs : List Char) :
    (start.advance cs).next '\n' = start.below (cs.count '\n' + 1) := by
  have hline (p : Position) : (p.advance cs).line = p.line + cs.count '\n' := by
    induction cs generalizing p with
    | nil => rfl
    | cons c cs ih =>
      rw [advance_cons, ih, List.count_cons, next]
      by_cases hc : c = '\n'
      · simp [hc]
        omega
      · simp [hc]
  rw [next, if_pos rfl, hline, below, Nat.add_assoc]
  rfl

namespace Token

variable {move : Position → Position} {position : Position} {cs rest : List Char} {piece : Piece}

/-- The token of a piece elsewhere is its token, elsewhere. -/
lemma token?_relocate (piece : Piece) (position : Position) :
    piece.token? (move position) =
      bimap (CompileError.relocate move) (Option.map (relocate move)) (piece.token? position) := by
  unfold Piece.token?
  split
  · split <;> rfl
  · rfl

/-- A move that goes together with each character goes together with all of them. -/
lemma advance_move (hmove : ∀ p c, (move p).next c = move (p.next c)) (p : Position)
    (cs : List Char) : (move p).advance cs = move (p.advance cs) := by
  induction cs generalizing p with
  | nil => rfl
  | cons c cs ih => rw [Position.advance_cons, Position.advance_cons, hmove, ih]

/-- A text has the same tokens elsewhere, as long as to go on there is to go on in the text.

**Proof sketch.** Induction on the pieces of the text. -/
theorem readFrom_relocate (hmove : ∀ p c, (move p).next c = move (p.next c)) (position : Position)
    (cs : List Char) : readFrom (move position) cs =
      bimap (CompileError.relocate move) (List.map (relocate move)) (readFrom position cs) := by
  induction cs using Piece.scan.induct generalizing position with
  | case1 cs hstuck =>
    cases cs with
    | nil =>
      rw [readFrom_nil, readFrom_nil]
      rfl
    | cons c cs =>
      rw [readFrom_of_stuck hstuck, readFrom_of_stuck hstuck]
      rfl
  | case2 cs r hr ih =>
    rw [readFrom_of_read? hr, readFrom_of_read? hr, token?_relocate, advance_move hmove, ih]
    cases r.1.token? position with
    | error e => rfl
    | ok token? =>
      cases readFrom (position.advance r.1.spelling) r.2 with
      | error e => rfl
      | ok tokens => cases token? <;> rfl

/-! ## A text after a new line -/

/-- A piece other than a run of blanks does not go on with a new line. -/
lemma goesOn_newline (h : ∀ run, piece ≠ .blank run) : piece.goesOn '\n' = false := by
  cases piece with
  | blank run => exact absurd rfl (h run)
  | lineComment body | blockComment body => rfl
  | token kind text => cases kind <;> rfl

/-- When a text is followed by another one on a new line, its first piece stays, or a run of blanks
goes on with the new line. -/
lemma readFrom_append_newline_of_read? (h : Piece.read? cs = some (piece, rest)) (ds : List Char) :
    readFrom position (cs ++ '\n' :: ds) = do
      let token? ← piece.token? position
      let tokens ← readFrom (position.advance piece.spelling) (rest ++ '\n' :: ds)
      return token?.toList ++ tokens := by
  by_cases hblank : ∃ run, piece = .blank run
  · obtain ⟨run, rfl⟩ := hblank
    obtain ⟨rfl, hrun, -⟩ := Piece.read?_eq_some_iff.1 h
    rw [List.append_assoc, Piece.spelling, readFrom_blanks hrun.isBlank]
    change _ = do
      let tokens ← readFrom (position.advance run) (rest ++ '\n' :: ds)
      return [] ++ tokens
    cases readFrom (position.advance run) (rest ++ '\n' :: ds) <;> rfl
  · rw [not_exists] at hblank
    exact readFrom_of_read? (Piece.read?_append h (stops_cons (goesOn_newline hblank) ds))

/-- The tokens of a text stay when another text follows on a new line, and those of that one come
after them.

**Proof sketch.** Induction on the pieces of the first text. At its end the new line is a blank. -/
theorem readFrom_append_newline {tokens : List Token} (h : readFrom position cs = .ok tokens)
    (ds : List Char) : readFrom position (cs ++ '\n' :: ds) =
      (tokens.dropLast ++ ·) <$> readFrom ((position.advance cs).next '\n') ds := by
  induction cs using Piece.scan.induct generalizing position tokens with
  | case1 cs hstuck =>
    cases cs with
    | nil =>
      rw [readFrom_nil] at h
      cases h
      rw [List.nil_append, readFrom_blank (by decide)]
      exact (id_map (readFrom (position.next '\n') ds)).symm
    | cons c cs =>
      rw [readFrom_of_stuck hstuck] at h
      cases h
  | case2 cs r hr ih =>
    have hadvance : position.advance cs = (position.advance r.1.spelling).advance r.2 := by
      rw [← Position.advance_append, Piece.spelling_append_of_read? hr]
    rw [readFrom_of_read? hr] at h
    obtain ⟨token?, ht, h⟩ := bind_eq_ok.1 h
    obtain ⟨tokens', htokens, h⟩ := bind_eq_ok.1 h
    cases h
    have hne : tokens' ≠ [] := by
      obtain ⟨ts, rfl, -⟩ := exists_of_readFrom htokens
      simp
    rw [readFrom_append_newline_of_read? hr, ht, ih htokens, hadvance,
      List.dropLast_append_of_ne_nil hne]
    cases readFrom (((position.advance r.1.spelling).advance r.2).next '\n') ds with
    | error e => rfl
    | ok us => exact congrArg Except.ok (List.append_assoc _ _ _).symm

end Token

/-! ## Documents -/

namespace Model

/-- What two texts declare together when the second one follows the first one on a new line. -/
lemma ofText_join {first : String} {models : List Model} (h : ofText first = .ok models)
    (second : String) :
    ofText (first ++ "\n" ++ second) =
      bimap (CompileError.relocate (Position.below (first.toList.count '\n' + 1)))
        (models ++ ·.map (relocate (Position.below (first.toList.count '\n' + 1))))
        (ofText second) := by
  have htext : (first ++ "\n" ++ second).toList = first.toList ++ '\n' :: second.toList := by simp
  generalize hmove : Position.below (first.toList.count '\n' + 1) = move
  -- the first text is read up to where a further model may begin
  obtain ⟨ts, htokens, hts, hread⟩ := exists_of_ofText h
  rw [Token.ofText_eq_readFrom] at htokens
  rw [ofText, ofText, Token.ofText_eq_readFrom, Token.ofText_eq_readFrom, htext,
    Token.readFrom_append_newline htokens, List.dropLast_concat, Position.next_advance_start,
    Token.readFrom_relocate (Position.next_below _), hmove]
  cases hsecond : Token.readFrom .start second.toList with
  | error e => rfl
  | ok tokens' =>
    obtain ⟨us, rfl, hus⟩ := Token.exists_of_readFrom hsecond
    have hinside : ∀ t ∈ us, t.kind ≠ .endOfInput := fun t ht => (hus t ht).kind_ne_endOfInput
    have hjoined : ∀ t ∈ ts ++ us.map (Token.relocate move), t.kind ≠ .endOfInput :=
      List.forall_mem_append.2 ⟨fun t ht => (hts t ht).kind_ne_endOfInput,
        List.forall_mem_map.2 hinside⟩
    change ofTokens (ts ++ List.map (Token.relocate move) (us ++ [_])) =
      bimap _ _ (ofTokens (us ++ [_]))
    rw [List.map_append, List.map_singleton, ← List.append_assoc, ofTokens_concat hjoined rfl,
      ofTokens_concat hinside rfl, Prefix.run_append, hread]
    exact Prefix.read_relocate move models us _

/-- **Documents compose.** When the first of two texts declares models, the two together, with a new
line between them, declare these and those of the second text, and they fail as the second text
fails. The positions of the second text are further down by its number of lines before it; its
columns are the same. -/
theorem ofText_joins {first : String} {models : List Model} (h : ofText first = .ok models)
    (second : String) :
    let move := Position.below (first.toList.count '\n' + 1)
    (∀ further, ofText second = .ok further →
        ofText (first ++ "\n" ++ second) = .ok (models ++ further.map (relocate move))) ∧
      ∀ e, ofText second = .error e →
        ofText (first ++ "\n" ++ second) = .error (e.relocate move) := by
  intro move
  have hjoin := ofText_join h second
  constructor
  · intro further hfurther
    rw [hjoin, hfurther]
    rfl
  · intro e he
    rw [hjoin, he]
    rfl

/-- The comment of the first text ends where the second one begins, which is read there, or fails
there. -/
theorem ofText_joins_comment :
    ofText "model A \x7b\x7d\n// end" = .ok [⟨"A", ⟨1, 7⟩, []⟩] ∧
      ofText "model B \x7b\x7d" = .ok [⟨"B", ⟨1, 7⟩, []⟩] ∧
      ofText "model A \x7b\x7d\n// end\nmodel B \x7b\x7d" =
        .ok [⟨"A", ⟨1, 7⟩, []⟩, ⟨"B", ⟨3, 7⟩, []⟩] ∧
      ofText "model /" = .error (.unexpectedCharacter '/' ⟨1, 7⟩) ∧
      ofText "model A \x7b\x7d\n// end\nmodel /" = .error (.unexpectedCharacter '/' ⟨3, 7⟩) := by
  have hfirst : ofText "model A \x7b\x7d\n// end" = .ok [⟨"A", ⟨1, 7⟩, []⟩] := by decide +kernel
  have hsecond : ofText "model B \x7b\x7d" = .ok [⟨"B", ⟨1, 7⟩, []⟩] := by decide +kernel
  have hfailing : ofText "model /" = .error (.unexpectedCharacter '/' ⟨1, 7⟩) := by decide +kernel
  exact ⟨hfirst, hsecond, (ofText_joins hfirst "model B \x7b\x7d").1 _ hsecond, hfailing,
    (ofText_joins hfirst "model /").2 _ hfailing⟩

end Model

end ModelSchema
