import Mathlib.Algebra.Order.Ring.Nat
import Mathlib.Data.List.Induction
import ModelSchema.Proofs.Rejection
import ModelSchema.Proofs.Scanning
import ModelSchema.Proofs.TypeReading

set_option autoImplicit false

/-!
# Tokens tile a text

A text that is cut into tokens consists of pieces and of nothing else: blanks, comments and the
tokens. Each piece obeys the rules and does not go on in what follows it, and each token is where
its piece begins.

## Main definitions

* `Position.after` — the position after a text, by its line feeds and its characters.
* `Piece.Tiles` — a text consists of pieces, up to some rest.
* `Token.IsLexical` — the tokens that a text can have.
* `Token.Tiles` — a text consists of pieces that have tokens, each of which is where its piece
  begins.

## Main results

* `Position.advance_start` — going over a text ends at the position after it.
* `Token.readFrom_of_tiles` — the tokens of a text are those of the pieces that tile it.
* `Model.ofTokens_ne_numberOutOfRange` — the reader finds no number too large, unless a token is.
* `Token.ofText_tiles` — tokens tile their text, and their positions are exact.
-/

namespace ModelSchema

open Lexing Outcome

/-! ## Positions -/

namespace Position

/-- The position after a text: its line is one more than the number of line feeds, and its column
one more than the number of characters after the last of them. -/
def after (cs : List Char) : Position :=
  ⟨cs.count '\n' + 1, (cs.reverse.takeWhile (· != '\n')).length + 1⟩

/-- The position after one more character is the next one. -/
lemma after_concat (cs : List Char) (c : Char) : after (cs ++ [c]) = (after cs).next c := by
  unfold after next
  by_cases hc : c = '\n'
  · simp [hc]
  · simp [hc]

/-- Going over a text ends at the position after it. -/
theorem advance_start (cs : List Char) : start.advance cs = after cs := by
  induction cs using List.reverseRecOn with
  | nil => rfl
  | append_singleton cs c ih =>
    rw [advance_append, ih, after_concat]
    rfl

end Position

/-! ## Pieces -/

namespace Piece

/-- A text consists of pieces, up to `rest`: each of them obeys the rules, and it does not go on in
what follows it. -/
inductive Tiles (rest : List Char) : List Piece → List Char → Prop where
  | nil : Tiles rest [] rest
  | cons {piece : Piece} {pieces : List Piece} {cs : List Char} (form : piece.WellFormed)
      (stops : Stops piece.goesOn cs) (others : Tiles rest pieces cs) :
      Tiles rest (piece :: pieces) (piece.spelling ++ cs)

variable {rest cs : List Char} {pieces : List Piece}

/-- The pieces and what is left over make up the text. -/
lemma Tiles.flatMap_append (h : Tiles rest pieces cs) : pieces.flatMap spelling ++ rest = cs := by
  induction h with
  | nil => rfl
  | cons _ _ _ ih => rw [List.flatMap_cons, List.append_assoc, ih]

/-- Pieces are read off the text that they tile up to where it is stuck. -/
lemma Tiles.scan (h : Tiles rest pieces cs) (hrest : read? rest = none) :
    scan cs = (pieces, rest) := by
  induction h with
  | nil => exact scan_of_stuck hrest
  | cons form stops _ ih => rw [scan_of_read? (form.read? stops), ih]

/-- The pieces of a scan tile the text up to where it ends. -/
lemma tiles_scan (cs : List Char) : Tiles (Piece.scan cs).2 (Piece.scan cs).1 cs := by
  fun_induction Piece.scan cs with
  | case1 => exact .nil
  | case2 cs r hr s ih =>
    obtain ⟨rfl, form, stops⟩ := read?_eq_some_iff.1 hr
    exact .cons form stops ih

/-- Where a scan ends no piece can be read. -/
lemma read?_scan (cs : List Char) : read? (Piece.scan cs).2 = none := by
  fun_induction Piece.scan cs with
  | case1 _ hr => exact hr
  | case2 _ _ _ _ ih => exact ih

/-- Whether a piece is the spelling of a token. -/
def isToken : Piece → Bool
  | .token _ _ => true
  | _ => false

/-- A piece is a token or has none. -/
lemma token?_eq_ok {piece : Piece} {position : Position} {t? : Option Token}
    (h : piece.token? position = .ok t?) :
    (∃ kind word, piece = .token kind word ∧ t? = some ⟨kind, String.ofList word, position⟩) ∨
      piece.isToken = false ∧ t? = none := by
  unfold token? at h
  split at h
  · next kind word =>
    split at h <;> cases h
    exact .inl ⟨kind, word, rfl, rfl⟩
  · next hnone =>
    cases h
    refine .inr ⟨?_, rfl⟩
    cases piece with
    | token kind word => exact absurd rfl (hnone kind word)
    | _ => rfl

end Piece

/-! ## Tokens -/

namespace Token

variable {position : Position} {rest cs : List Char} {pieces : List Piece} {ts : List Token}
    {t : Token}

/-- The piece that a token is spelled by. -/
def piece (t : Token) : Piece :=
  .token t.kind t.text.toList

/-- The tokens of pieces are those of the pieces that spell tokens, in order, and each is where its
piece begins. -/
lemma placed_of_ofPieces (h : ofPieces position pieces = .ok ts) :
    ts.map piece = pieces.filter Piece.isToken ∧
      ∀ before kind word after, pieces = before ++ .token kind word :: after →
        ts[(before.filter Piece.isToken).length]? =
          some ⟨kind, String.ofList word, position.advance (before.flatMap Piece.spelling)⟩ := by
  induction pieces generalizing position ts with
  | nil =>
    cases h
    exact ⟨rfl, fun before _ _ _ he => by simp at he⟩
  | cons first pieces ih =>
    obtain ⟨t?, ht, h⟩ := bind_eq_ok.1 h
    obtain ⟨us, hus, h⟩ := bind_eq_ok.1 h
    cases h
    obtain ⟨horder, hplaces⟩ := ih hus
    -- the first piece counts towards the place of the others only if it has a token
    rcases Piece.token?_eq_ok ht with ⟨kind, word, rfl, rfl⟩ | ⟨hnone, rfl⟩
    · constructor
      · rw [List.filter_cons_of_pos rfl, ← horder]
        simp [piece]
      · intro before kind' word' after he
        cases before with
        | nil =>
          cases he
          rfl
        | cons _ before =>
          obtain ⟨rfl, hrest⟩ := List.cons_eq_cons.1 he
          rw [List.flatMap_cons, Position.advance_append, ← hplaces before kind' word' after hrest]
          rfl
    · constructor
      · simp [horder, hnone]
      · intro before kind' word' after he
        cases before with
        | nil =>
          cases he
          cases hnone
        | cons _ before =>
          obtain ⟨rfl, hrest⟩ := List.cons_eq_cons.1 he
          rw [List.flatMap_cons, Position.advance_append, ← hplaces before kind' word' after hrest,
            List.filter_cons_of_neg (by simp [hnone])]
          rfl

/-- The tokens of a text are those of the pieces that tile it up to where it is stuck. -/
theorem readFrom_of_tiles (h : Piece.Tiles rest pieces cs) (hrest : Piece.read? rest = none) :
    readFrom position cs = (do
      let ts ← ofPieces position pieces
      match rest with
      | [] => return ts ++ [⟨.endOfInput, "", position.advance cs⟩]
      | c :: _ =>
        throw (.unexpectedCharacter c (position.advance (pieces.flatMap Piece.spelling)))) := by
  rw [readFrom, h.scan hrest]
  cases rest with
  | nil =>
    have hcs := h.flatMap_append
    rw [List.append_nil] at hcs
    rw [← hcs]
  | cons c rest => rfl

/-- A text that has tokens is tiled by pieces, which have these tokens. -/
lemma exists_tiles_of_readFrom {tokens : List Token} (h : readFrom position cs = .ok tokens) :
    ∃ pieces ts, Piece.Tiles [] pieces cs ∧ ofPieces position pieces = .ok ts ∧
      tokens = ts ++ [⟨.endOfInput, "", position.advance cs⟩] := by
  have htiles := Piece.tiles_scan cs
  rw [readFrom_of_tiles htiles (Piece.read?_scan cs)] at h
  obtain ⟨ts, hts, h⟩ := bind_eq_ok.1 h
  generalize (Piece.scan cs).2 = rest at htiles h
  cases rest with
  | nil =>
    cases h
    exact ⟨_, ts, htiles, hts, rfl⟩
  | cons c rest => cases h

/-- The tokens that a text can have: the word that opens a declaration, any other word, what stands
between double quotes, digits with a value that is a word of 64 bits, or a mark. -/
inductive IsLexical : Token → Prop where
  | model {position : Position} : IsLexical ⟨.model, "model", position⟩
  | identifier {text : String} {position : Position} (word : IsIdentifier text)
      (other : text ≠ "model") :
      IsLexical ⟨.identifier, text, position⟩
  | string {text : String} {position : Position} (inside : '"' ∉ text.toList) :
      IsLexical ⟨.string, text, position⟩
  | number {text : String} {position : Position} (nonempty : text ≠ "")
      (digits : ∀ c ∈ text.toList, c.isDigit = true)
      (value : Nat.ofDigitChars 10 text.toList 0 < 2 ^ 64) :
      IsLexical ⟨.number, text, position⟩
  | mark {c : Char} {kind : TokenKind} {position : Position}
      (marks : TokenKind.ofMark? c = some kind) :
      IsLexical ⟨kind, String.ofList [c], position⟩

/-- Digits that spell a word have a value below `2 ^ 64`. -/
lemma value_lt_of_readWord? {c : Char} {digits : List Char} (hc : c.isDigit = true)
    (h : Text.readWord? (c :: digits) ≠ none) : Nat.ofDigitChars 10 (c :: digits) 0 < 2 ^ 64 := by
  have hplus : c ≠ '+' := by
    rintro rfl
    cases hc
  rw [Text.readWord?, Text.digitsWord?] at h
  · split at h
    · next hvalue => exact hvalue.2.2
    · exact absurd rfl h
  · rintro cs he
    exact hplus (List.cons.inj he).1

/-- A written token is one that a text can have. -/
lemma IsWritten.isLexical (h : t.IsWritten) : t.IsLexical := by
  obtain ⟨kind, text, position⟩ := t
  have hform := h.form
  have hvalue := h.valued position
  rw [← String.ofList_toList (s := text)]
  dsimp only at hform hvalue ⊢
  generalize text.toList = cs at hform hvalue ⊢
  cases hform with
  | string inside =>
    refine .string fun hquote => ?_
    rw [String.toList_ofList] at hquote
    simpa using inside _ hquote
  | @number c digits first others =>
    rw [Piece.token?] at hvalue
    split at hvalue
    · cases hvalue
    · next hword =>
      rw [not_and] at hword
      refine .number (by simp) ?_ ?_
      · rw [String.toList_ofList]
        exact List.forall_mem_cons.2 ⟨first, others⟩
      · rw [String.toList_ofList]
        exact value_lt_of_readWord? first (hword rfl)
  | @word c part first others =>
    unfold Piece.wordKind
    split
    · next hmodel =>
      rw [hmodel]
      exact .model
    · next hmodel =>
      refine .identifier ⟨c, part, String.toList_ofList, first, others⟩ fun he => hmodel ?_
      rw [← String.toList_ofList (l := c :: part), he]
      rfl
  | mark marks => exact .mark marks

/-- A written token that is a word spells one. -/
lemma IsWritten.isIdentifier (h : t.IsWritten) (hkind : t.kind = .identifier) :
    IsIdentifier t.text := by
  cases h.isLexical with
  | identifier word => exact word
  | @mark _ kind _ marks =>
    obtain rfl : kind = .identifier := hkind
    unfold TokenKind.ofMark? at marks
    split at marks <;> cases marks
  | _ => cases hkind

/-- No written token is a number that is too large. -/
lemma IsWritten.not_isTooLarge (h : t.IsWritten) : ¬ t.IsTooLarge := by
  rintro ⟨hkind, hnone⟩
  have hvalue := h.valued .start
  rw [Piece.token?, if_pos ⟨hkind, hnone⟩] at hvalue
  cases hvalue

end Token

/-- The reader finds no number that is too large, unless one of the tokens is. -/
theorem Model.ofTokens_ne_numberOutOfRange {tokens : List Token} {last : Token}
    (hlast : tokens.getLast? = some last) (hend : last.kind = .endOfInput)
    (h : ∀ t ∈ tokens, ¬ t.IsTooLarge) (number : String) (position : Position) :
    ofTokens tokens ≠ .error (.numberOutOfRange number position) := by
  intro he
  obtain ⟨before, t, after, read, rfl, -, -, hrejects⟩ := (ofTokens_eq_error_iff hlast hend).1 he
  cases hrejects with
  | inside _ step =>
    rcases Prefix.step_eq_error step with hunexpected | ⟨hlarge, -⟩
    · cases hunexpected
    · exact h t (by simp) hlarge
  | atEnd _ finish => cases Prefix.finish_eq_error finish

namespace Token

/-- A text consists of pieces that have tokens. -/
structure Tiles (pieces : List Piece) (ts : List Token) (text : List Char) : Prop where
  /-- The text consists of the pieces, none of which goes on in what follows it. -/
  covered : Piece.Tiles [] pieces text
  /-- The pieces that are no blanks or comments are the spellings of the tokens, in order. -/
  spelled : ts.map piece = pieces.filter Piece.isToken
  /-- Each token is at the position after what stands before its piece. -/
  placed : ∀ before kind word after, pieces = before ++ .token kind word :: after →
    ts[(before.filter Piece.isToken).length]? =
      some ⟨kind, String.ofList word, .after (before.flatMap Piece.spelling)⟩
  lexical : ∀ t ∈ ts, t.kind ≠ .endOfInput ∧ t.IsLexical

/-- **Tokens tile their text, and their positions are exact.** A text that has tokens consists of
pieces: runs of blanks, comments, and the spellings of the tokens in order. An end of input follows
the last token, at the position after the text. The tokens are such as a text can have, so the
reader finds no number among them that is too large.

**Proof sketch.** What has been scanned is tiled by what has been read, and the position goes over
it with the pieces. -/
theorem ofText_tiles (text : String) (tokens : List Token) (h : ofText text = .ok tokens) :
    (∃ pieces ts, Tiles pieces ts text.toList ∧
        tokens = ts ++ [⟨.endOfInput, "", .after text.toList⟩]) ∧
    ∀ number position, Model.ofTokens tokens ≠ .error (.numberOutOfRange number position) := by
  rw [ofText_eq_readFrom] at h
  obtain ⟨pieces, ts, hcovered, hts, rfl⟩ := exists_tiles_of_readFrom h
  obtain ⟨ts', heq, hwritten⟩ := exists_of_readFrom h
  obtain rfl := List.append_cancel_right heq
  obtain ⟨hspelled, hplaced⟩ := placed_of_ofPieces hts
  simp only [Position.advance_start] at hplaced ⊢
  constructor
  · refine ⟨pieces, ts, ⟨hcovered, hspelled, hplaced, fun t ht => ?_⟩, rfl⟩
    exact ⟨(hwritten t ht).kind_ne_endOfInput, (hwritten t ht).isLexical⟩
  · refine Model.ofTokens_ne_numberOutOfRange (List.getLast?_concat ..) rfl ?_
    refine List.forall_mem_append.2 ⟨fun t ht => (hwritten t ht).not_isTooLarge, fun t ht => ?_⟩
    rw [List.mem_singleton.1 ht]
    exact fun hlarge => by cases hlarge.1

/-! ### Line feeds inside pieces -/

/-- A text with a line feed in a comment and another one in a string. -/
def spread : String :=
  "x1/* é\n */\"\n\"07"

/-- The tokens of the text before its end. -/
def spreadTokens : List Token :=
  [⟨.identifier, "x1", ⟨1, 1⟩⟩, ⟨.string, "\n", ⟨2, 4⟩⟩, ⟨.number, "07", ⟨3, 2⟩⟩]

/-- The string begins on the second line and ends on the third one, where the number follows it. -/
theorem ofText_tiles_spread :
    ofText spread = .ok (spreadTokens ++ [⟨.endOfInput, "", ⟨3, 4⟩⟩]) ∧
    (∃ pieces, Tiles pieces spreadTokens spread.toList) ∧
    ∀ number position, Model.ofTokens (spreadTokens ++ [⟨.endOfInput, "", ⟨3, 4⟩⟩]) ≠
        .error (.numberOutOfRange number position) := by
  have h : ofText spread = .ok (spreadTokens ++ [⟨.endOfInput, "", ⟨3, 4⟩⟩]) := by decide +kernel
  obtain ⟨⟨pieces, ts, htiles, hend⟩, hnumbers⟩ := ofText_tiles spread _ h
  have hts : spreadTokens = ts := (List.append_inj' hend rfl).1
  exact ⟨h, ⟨pieces, hts ▸ htiles⟩, hnumbers⟩

end Token

end ModelSchema
