import ModelSchema.Proofs.Pieces
import ModelSchema.Proofs.Reading
import ModelSchema.Source.Lexer

set_option autoImplicit false

/-!
# Scanning a text

The tokens of a text are read piece by piece from any position on. A token is the same wherever it
stands, as long as what follows does not go on with it, and blanks and comments are passed over.

## Main definitions

* `Token.readFrom` — the tokens of a text that starts at a position, with its end.
* `Token.spelling` — the characters of a token.
* `Token.IsWritten` — a token that can stand in a text.

## Main results

* `Token.readFrom_of_read?` — reading the tokens of a text piece by piece.
* `Token.readFrom_spelling` — a token is read from its characters.
* `Token.exists_of_readFrom` — the tokens of a text are written, and an end of input follows them.
* `Model.exists_of_ofText` — how a text that declares models is read.
-/

namespace ModelSchema

open Outcome Lexing

/-! ## Texts -/

namespace Piece

/-- A piece that can be read is the first one. -/
lemma scan_of_read? {cs : List Char} {r : Piece × List Char} (h : read? cs = some r) :
    scan cs = (r.1 :: (scan r.2).1, (scan r.2).2) := by
  rw [scan]
  split
  · next hnone => rw [h] at hnone; cases hnone
  · next r' hr =>
    rw [h] at hr
    cases hr
    rfl

/-- Where no piece can be read, the scan ends. -/
lemma scan_of_stuck {cs : List Char} (h : read? cs = none) : scan cs = ([], cs) := by
  rw [scan]
  split
  · rfl
  · next hr => rw [h] at hr; cases hr

end Piece

namespace Token

variable {position : Position} {cs rest : List Char} {piece : Piece}

/-- The tokens of a text that starts at `position`, the last of which is its end. -/
def readFrom (position : Position) (cs : List Char) : Except CompileError (List Token) := do
  let (pieces, rest) := Piece.scan cs
  let stop := position.advance (pieces.flatMap Piece.spelling)
  let tokens ← ofPieces position pieces
  match rest with
  | [] => return tokens ++ [⟨.endOfInput, "", stop⟩]
  | c :: _ => throw (.unexpectedCharacter c stop)

/-- A text is read from its start. -/
lemma ofText_eq_readFrom (text : String) : ofText text = readFrom .start text.toList := rfl

/-- The end of a text is a token of its own. -/
lemma readFrom_nil (position : Position) :
    readFrom position [] = .ok [⟨.endOfInput, "", position⟩] := by
  rw [readFrom, Piece.scan_of_stuck rfl]
  rfl

/-- A text that is stuck at its first character. -/
lemma readFrom_of_stuck {c : Char} (h : Piece.read? (c :: cs) = none) :
    readFrom position (c :: cs) = .error (.unexpectedCharacter c position) := by
  rw [readFrom, Piece.scan_of_stuck h]
  rfl

/-- The tokens of a text are those of its first piece and those of what follows that. -/
theorem readFrom_of_read? (h : Piece.read? cs = some (piece, rest)) :
    readFrom position cs = do
      let token? ← piece.token? position
      let tokens ← readFrom (position.advance piece.spelling) rest
      return token?.toList ++ tokens := by
  rw [readFrom, Piece.scan_of_read? h]
  simp only [ofPieces, List.flatMap_cons, Position.advance_append, bind_assoc]
  congr 1
  funext token?
  rw [readFrom]
  rcases Piece.scan rest with ⟨pieces, left⟩
  dsimp only
  cases ofPieces (position.advance piece.spelling) pieces with
  | error e => rfl
  | ok tokens =>
    cases left with
    | nil => simp [pure, Except.pure, bind, Except.bind]
    | cons c left => rfl

/-- A piece without a token is passed over. -/
lemma readFrom_of_trivia (h : Piece.read? cs = some (piece, rest))
    (hnone : piece.token? position = .ok none) :
    readFrom position cs = readFrom (position.advance piece.spelling) rest := by
  rw [readFrom_of_read? h, hnone]
  cases readFrom (position.advance piece.spelling) rest <;> rfl

/-- A piece with a token is read as this token. -/
lemma readFrom_of_token {t : Token} (h : Piece.read? cs = some (piece, rest))
    (hsome : piece.token? position = .ok (some t)) :
    readFrom position cs = (t :: ·) <$> readFrom (position.advance piece.spelling) rest := by
  rw [readFrom_of_read? h, hsome]
  cases readFrom (position.advance piece.spelling) rest <;> rfl

/-! ## Blanks and comments -/

/-- A blank is passed over.

**Proof sketch.** Blanks are read in runs, and without its first one a run is still a run, or
nothing. -/
lemma readFrom_blank {c : Char} (hc : Text.isBlank c = true) (cs : List Char) :
    readFrom position (c :: cs) = readFrom (position.next c) cs := by
  have hread (c : Char) (hc : Text.isBlank c = true) (cs : List Char) : Piece.read? (c :: cs) =
      some (.blank (c :: cs.takeWhile Text.isBlank), cs.dropWhile Text.isBlank) := by
    rw [Piece.read?, if_pos hc]
  rw [readFrom_of_trivia (hread c hc cs) rfl, Piece.spelling, Position.advance_cons]
  cases cs with
  | nil => rfl
  | cons d cs =>
    by_cases hd : Text.isBlank d = true
    · rw [readFrom_of_trivia (hread d hd cs) rfl, List.takeWhile_cons_of_pos hd,
        List.dropWhile_cons_of_pos hd]
      rfl
    · rw [List.takeWhile_cons_of_neg hd, List.dropWhile_cons_of_neg hd]
      rfl

/-- A run of blanks is passed over. -/
lemma readFrom_blanks {run : List Char} (h : ∀ c ∈ run, Text.isBlank c = true) (cs : List Char) :
    readFrom position (run ++ cs) = readFrom (position.advance run) cs := by
  induction run generalizing position with
  | nil => rfl
  | cons c run ih =>
    rw [List.forall_mem_cons] at h
    rw [List.cons_append, readFrom_blank h.1, ih h.2, Position.advance_cons]

/-! ## Written tokens -/

/-- The characters of a token; a string stands between double quotes. -/
def spelling (token : Token) : List Char :=
  (Piece.token token.kind token.text.toList).spelling

/-- A token whose text is that of a piece of its kind, and not a number that is too large. -/
structure IsWritten (token : Token) : Prop where
  form : (Piece.token token.kind token.text.toList).WellFormed
  valued : ∀ position,
    (Piece.token token.kind token.text.toList).token? position = .ok (some { token with position })

/-- A token is read from its characters, as long as no word goes on after them. -/
theorem readFrom_spelling {t : Token} (h : t.IsWritten) (hcs : Stops Piece.isWordPart cs) :
    readFrom position (t.spelling ++ cs) =
      ({ t with position } :: ·) <$> readFrom (position.advance t.spelling) cs :=
  readFrom_of_token (h.form.read? (Piece.stops_token hcs _ _)) (h.valued position)

/-- The token of a piece is written. -/
lemma isWritten_of_read? {t : Token} (h : Piece.read? cs = some (piece, rest))
    (hsome : piece.token? position = .ok (some t)) : t.IsWritten := by
  unfold Piece.token? at hsome
  split at hsome
  · next kind text =>
    split at hsome
    · cases hsome
    next hvalue =>
    cases hsome
    refine ⟨?_, fun position => ?_⟩
    · rw [String.toList_ofList]
      exact (Piece.wellFormed_of_read? h).1
    · rw [String.toList_ofList, Piece.token?, if_neg hvalue]
  · cases hsome

/-- No written token is the end of input. -/
lemma IsWritten.kind_ne_endOfInput {t : Token} (h : t.IsWritten) : t.kind ≠ .endOfInput :=
  h.form.kind_ne_endOfInput

/-- The tokens of a text are written, and its end follows them. -/
theorem exists_of_readFrom {tokens : List Token} (h : readFrom position cs = .ok tokens) :
    ∃ ts, tokens = ts ++ [⟨.endOfInput, "", position.advance cs⟩] ∧ ∀ t ∈ ts, t.IsWritten := by
  induction cs using Piece.scan.induct generalizing position tokens with
  | case1 cs hstuck =>
    cases cs with
    | nil =>
      rw [readFrom_nil] at h
      cases h
      exact ⟨[], rfl, by simp⟩
    | cons c cs =>
      rw [readFrom_of_stuck hstuck] at h
      cases h
  | case2 cs r hr ih =>
    have hadvance : (position.advance r.1.spelling).advance r.2 = position.advance cs := by
      rw [← Position.advance_append, Piece.spelling_append_of_read? hr]
    rw [readFrom_of_read? hr] at h
    obtain ⟨token?, ht, h⟩ := bind_eq_ok.1 h
    obtain ⟨tokens', htokens, h⟩ := bind_eq_ok.1 h
    cases h
    obtain ⟨ts, rfl, hts⟩ := ih htokens
    rw [hadvance]
    refine ⟨token?.toList ++ ts, by rw [List.append_assoc], ?_⟩
    intro t hmem
    rcases List.mem_append.1 hmem with hmem | hmem
    · obtain rfl := Option.mem_toList.1 hmem
      exact isWritten_of_read? hr ht
    · exact hts t hmem

end Token

/-- A text that declares models is read up to where a further model may begin. -/
theorem Model.exists_of_ofText {text : String} {models : List Model}
    (h : ofText text = .ok models) :
    ∃ ts, Token.ofText text = .ok (ts ++ [⟨.endOfInput, "", Position.start.advance text.toList⟩]) ∧
      (∀ t ∈ ts, t.IsWritten) ∧ (Prefix.betweenModels []).run ts = .ok (.betweenModels models) := by
  obtain ⟨tokens, htokens, hmodels⟩ := bind_eq_ok.1 h
  obtain ⟨ts, rfl, hts⟩ := Token.exists_of_readFrom htokens
  have hinside : ∀ t ∈ ts, t.kind ≠ .endOfInput := fun t ht => (hts t ht).kind_ne_endOfInput
  obtain ⟨read, hread, hfinish⟩ := bind_eq_ok.1 ((ofTokens_concat hinside rfl).symm.trans hmodels)
  cases read with
  | betweenModels =>
    cases hfinish
    exact ⟨ts, htokens, hts, hread⟩
  | _ => cases hfinish

end ModelSchema
