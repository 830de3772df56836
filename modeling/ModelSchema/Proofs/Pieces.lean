import ModelSchema.Proofs.Lexing
import ModelSchema.Source.Piece
import ModelSchema.Text.Blank

set_option autoImplicit false

/-!
# Where pieces end

Which piece stands at the start of a text is said by one rule for each sort of piece: what it
consists of, and what it may not go on with. Everything about the pieces of a text follows from
these rules.

## Main definitions

* `Piece.WellFormed` — what a piece consists of.
* `Piece.goesOn` — the characters on which a piece goes on.

## Main results

* `Piece.read?_eq_some_iff` — the piece at the start of a text is what obeys the rules and does not
  go on.
* `Piece.read?_append` — a piece is read the same when more text follows.
-/

namespace ModelSchema.Piece

open Lexing

/-! ## Classes of characters -/

section Classes

variable {c : Char}

/-- What begins a word may go on with it. -/
lemma isWordPart_of_isWordStart (h : isWordStart c = true) : isWordPart c = true := by
  simp [isWordPart, h]

/-- A digit may go on with a word. -/
lemma isWordPart_of_isDigit (h : c.isDigit = true) : isWordPart c = true := by
  simp [isWordPart, h]

/-- No digit begins a word. -/
lemma isDigit_eq_false_of_isWordStart (h : isWordStart c = true) : c.isDigit = false := by
  have hafter : '9'.val < c.val := by
    change ((decide ('A'.val ≤ c.val ∧ c.val ≤ 'Z'.val) || (decide ('a'.val ≤ c.val) &&
      decide (c.val ≤ 'z'.val))) || c == '_') = true at h
    simp only [Bool.or_eq_true, Bool.and_eq_true, decide_eq_true_eq, beq_iff_eq] at h
    obtain (h | h) | rfl := h
    · exact UInt32.lt_of_lt_of_le (by decide) h.1
    · exact UInt32.lt_of_lt_of_le (by decide) h.1
    · decide
  rw [Char.isDigit, decide_eq_false (UInt32.not_le.2 hafter), Bool.and_false]

/-- The characters of words lie between the digit zero and the letter z. -/
lemma toNat_of_isWordPart (h : isWordPart c = true) : 48 ≤ c.toNat ∧ c.toNat ≤ 122 := by
  change (((decide ('A'.val ≤ c.val ∧ c.val ≤ 'Z'.val) || (decide ('a'.val ≤ c.val) &&
    decide (c.val ≤ 'z'.val))) || c == '_') ||
      (decide ('0'.val ≤ c.val) && decide (c.val ≤ '9'.val))) = true at h
  simp only [Bool.or_eq_true, Bool.and_eq_true, decide_eq_true_eq, beq_iff_eq,
    UInt32.le_iff_toNat_le, Char.toNat_val, Char.reduceToNat] at h
  rcases h with ((h | h) | rfl) | h
  · omega
  · omega
  · decide
  · omega

/-- No word goes on with a blank. -/
lemma isWordPart_eq_false_of_isBlank (h : Text.isBlank c = true) : isWordPart c = false := by
  rw [← Bool.not_eq_true]
  intro hc
  have := toNat_of_isWordPart hc
  simp [Text.isBlank] at h
  omega

/-- No character of a word is blank. -/
lemma isBlank_eq_false_of_isWordPart (h : isWordPart c = true) : Text.isBlank c = false :=
  Bool.eq_false_iff.2 fun hblank => by simp [isWordPart_eq_false_of_isBlank hblank] at h

/-- A mark starts neither a run of blanks nor a number, a word, a comment or a string. -/
lemma classes_of_ofMark? {kind : TokenKind} (h : TokenKind.ofMark? c = some kind) :
    Text.isBlank c = false ∧ c.isDigit = false ∧ isWordStart c = false ∧ c ≠ '/' ∧ c ≠ '"' := by
  unfold TokenKind.ofMark? at h
  split at h
  case h_13 => cases h
  all_goals decide

end Classes

/-! ## The rules -/

/-- What a piece consists of. The comment of a block has no star before a slash inside, that of a
line has no line feed, and a string has no quote. -/
inductive WellFormed : Piece → Prop where
  | blank {c : Char} {run : List Char} (first : Text.isBlank c = true)
      (others : ∀ d ∈ run, Text.isBlank d = true) : WellFormed (.blank (c :: run))
  | lineComment {body : List Char} (inside : ∀ d ∈ body, (d != '\n') = true) :
      WellFormed (.lineComment body)
  | blockComment {body : List Char} (inside : ¬ ['*', '/'] <:+: body) :
      WellFormed (.blockComment body)
  | string {text : List Char} (inside : ∀ d ∈ text, (d != '"') = true) :
      WellFormed (.token .string text)
  | number {c : Char} {digits : List Char} (first : c.isDigit = true)
      (others : ∀ d ∈ digits, d.isDigit = true) : WellFormed (.token .number (c :: digits))
  | word {c : Char} {part : List Char} (first : isWordStart c = true)
      (others : ∀ d ∈ part, isWordPart d = true) :
      WellFormed (.token (wordKind (c :: part)) (c :: part))
  | mark {c : Char} {kind : TokenKind} (marks : TokenKind.ofMark? c = some kind) :
      WellFormed (.token kind [c])

/-- A run of blanks has nothing else in it. -/
lemma WellFormed.isBlank {run : List Char} (h : WellFormed (.blank run)) :
    ∀ c ∈ run, Text.isBlank c = true := by
  cases h with
  | blank first others => exact List.forall_mem_cons.2 ⟨first, others⟩

/-- The characters on which a piece goes on, as long as it can. The comment of a block and a string
end as early as they can, and a mark is one character. -/
def goesOn : Piece → Char → Bool
  | .blank _ => Text.isBlank
  | .lineComment _ => (· != '\n')
  | .token .number _ => Char.isDigit
  | .token .model _ | .token .identifier _ => isWordPart
  | _ => fun _ => false

variable {cs rest : List Char} {piece : Piece}

/-- A word goes on with the characters of words. -/
@[simp]
lemma goesOn_word (word text : List Char) : goesOn (.token (wordKind word) text) = isWordPart := by
  unfold wordKind
  split <;> rfl

/-- A mark does not go on. -/
lemma goesOn_mark {c : Char} {kind : TokenKind} (h : TokenKind.ofMark? c = some kind)
    (text : List Char) : goesOn (.token kind text) = fun _ => false := by
  unfold TokenKind.ofMark? at h
  split at h
  case h_13 => cases h
  all_goals
    cases h
    rfl

/-- A text is split at the first star before a slash. -/
lemma splitBlock?_eq_some_iff {body : List Char} :
    splitBlock? cs = some (body, rest) ↔
      body ++ '*' :: '/' :: rest = cs ∧ ¬ ['*', '/'] <:+: body := by
  fun_induction splitBlock? cs generalizing body with
  | case1 => simp
  | case2 cs =>
    constructor
    · rintro ⟨⟩
      exact ⟨rfl, by simp⟩
    · rintro ⟨hbody, hinside⟩
      cases body with
      | nil =>
        cases hbody
        rfl
      | cons d body =>
        cases body with
        | nil => cases hbody
        | cons e body =>
          cases hbody
          exact absurd (List.prefix_append ['*', '/'] body).isInfix hinside
  | case3 c cs hne ih =>
    constructor
    · intro h
      obtain ⟨r, hr, he⟩ := Option.map_eq_some_iff.1 h
      cases he
      obtain ⟨rfl, hinside⟩ := ih.1 hr
      refine ⟨rfl, fun hinfix => ?_⟩
      rcases List.infix_cons_iff.1 hinfix with ⟨left, hleft⟩ | hinfix
      · obtain ⟨rfl, hbody⟩ := List.cons_eq_cons.1 hleft
        exact hne (left ++ '*' :: '/' :: r.2) rfl (by simp [← hbody])
      · exact hinside hinfix
    · rintro ⟨hbody, hinside⟩
      cases body with
      | nil =>
        cases hbody
        exact (hne rest rfl rfl).elim
      | cons d body =>
        cases hbody
        rw [ih.2 ⟨rfl, fun hinfix => hinside (List.infix_cons hinfix)⟩]
        rfl

/-- The piece at the start of a text obeys the rules, and it does not go on in what follows. -/
lemma wellFormed_of_read? (h : read? cs = some (piece, rest)) :
    piece.WellFormed ∧ Stops piece.goesOn rest := by
  unfold read? at h
  split at h
  · cases h
  next c cs =>
  split at h
  · next hc =>
    cases h
    exact ⟨.blank hc fun _ => List.mem_takeWhile_imp, stops_dropWhile _ _⟩
  split at h
  · next hc =>
    cases h
    exact ⟨.number hc fun _ => List.mem_takeWhile_imp, stops_dropWhile _ _⟩
  split at h
  · next hc =>
    cases h
    rw [goesOn_word]
    exact ⟨.word hc fun _ => List.mem_takeWhile_imp, stops_dropWhile _ _⟩
  split at h
  · unfold readComment? at h
    split at h
    · cases h
      exact ⟨.lineComment fun _ => List.mem_takeWhile_imp, stops_dropWhile _ _⟩
    · obtain ⟨r, hr, he⟩ := Option.map_eq_some_iff.1 h
      cases he
      exact ⟨.blockComment (splitBlock?_eq_some_iff.1 hr).2, fun _ _ => rfl⟩
    · cases h
  split at h
  · unfold readString? at h
    split at h
    · cases h
    · cases h
      exact ⟨.string fun _ => List.mem_takeWhile_imp, fun _ _ => rfl⟩
  · obtain ⟨kind, hk, he⟩ := Option.map_eq_some_iff.1 h
    cases he
    rw [goesOn_mark hk]
    exact ⟨.mark hk, fun _ _ => rfl⟩

/-- What obeys the rules is read from its characters, whatever follows in which it does not go
on. -/
lemma WellFormed.read? (h : piece.WellFormed) (hrest : Stops piece.goesOn rest) :
    Piece.read? (piece.spelling ++ rest) = some (piece, rest) := by
  cases h with
  | @blank c run first others =>
    obtain ⟨htake, hdrop⟩ := takeWhile_append_of_stops others hrest
    rw [spelling, List.cons_append, Piece.read?, if_pos first, htake, hdrop]
  | @lineComment body inside =>
    obtain ⟨htake, hdrop⟩ := takeWhile_append_of_stops inside hrest
    rw [spelling, List.cons_append, List.cons_append, Piece.read?, if_neg (by decide),
      if_neg (by decide), if_neg (by decide), if_pos rfl, readComment?, htake, hdrop]
  | @blockComment body inside =>
    have hsplit : splitBlock? (body ++ ['*', '/'] ++ rest) = some (body, rest) :=
      splitBlock?_eq_some_iff.2 ⟨by simp, inside⟩
    rw [spelling, List.cons_append, List.cons_append, Piece.read?, if_neg (by decide),
      if_neg (by decide), if_neg (by decide), if_pos rfl, readComment?, hsplit]
    rfl
  | @string text inside =>
    have hquote : Stops (· != '"') ('"' :: rest) := stops_cons (by decide) rest
    obtain ⟨htake, hdrop⟩ := takeWhile_append_of_stops inside hquote
    rw [spelling, List.cons_append, List.append_assoc, List.singleton_append, Piece.read?,
      if_neg (by decide), if_neg (by decide), if_neg (by decide), if_neg (by decide), if_pos rfl,
      readString?, htake, hdrop]
  | @number c digits first others =>
    have hblank := isBlank_eq_false_of_isWordPart (isWordPart_of_isDigit first)
    obtain ⟨htake, hdrop⟩ := takeWhile_append_of_stops others hrest
    rw [spelling_token_of_ne (by decide), List.cons_append, Piece.read?, if_neg (by simp [hblank]),
      if_pos first, htake, hdrop]
  | @word c part first others =>
    have hblank := isBlank_eq_false_of_isWordPart (isWordPart_of_isWordStart first)
    have hdigit := isDigit_eq_false_of_isWordStart first
    rw [goesOn_word] at hrest
    obtain ⟨htake, hdrop⟩ := takeWhile_append_of_stops others hrest
    rw [spelling_token_of_ne (wordKind_ne_string _), List.cons_append, Piece.read?,
      if_neg (by simp [hblank]), if_neg (by simp [hdigit]), if_pos first, htake, hdrop]
  | @mark c kind marks =>
    obtain ⟨hblank, hdigit, hword, hslash, hquote⟩ := classes_of_ofMark? marks
    rw [spelling_token_of_ne (ofMark?_ne_string marks), List.singleton_append, Piece.read?,
      if_neg (by simp [hblank]), if_neg (by simp [hdigit]), if_neg (by simp [hword]), if_neg hslash,
      if_neg hquote, marks]
    rfl

/-- **The piece at the start of a text** is what obeys the rules and does not go on in what
follows. -/
theorem read?_eq_some_iff :
    Piece.read? cs = some (piece, rest) ↔
      piece.spelling ++ rest = cs ∧ piece.WellFormed ∧ Stops piece.goesOn rest := by
  constructor
  · intro h
    exact ⟨spelling_append_of_read? h, wellFormed_of_read? h⟩
  · rintro ⟨rfl, h, hrest⟩
    exact h.read? hrest

/-- A piece is read the same when more text follows in which it does not go on. -/
lemma read?_append {x : List Char} (h : Piece.read? cs = some (piece, rest))
    (hx : Stops piece.goesOn x) : Piece.read? (cs ++ x) = some (piece, rest ++ x) := by
  obtain ⟨rfl, hpiece, hrest⟩ := read?_eq_some_iff.1 h
  exact read?_eq_some_iff.2 ⟨(List.append_assoc ..).symm, hpiece, stops_append hrest hx⟩

/-- As long as no word goes on, no token does. -/
lemma stops_token (h : Stops isWordPart cs) (kind : TokenKind) (text : List Char) :
    Stops (goesOn (.token kind text)) cs := by
  intro c hc
  have hpart := h c hc
  cases kind with
  | model | identifier => exact hpart
  | number => exact (Bool.or_eq_false_iff.1 hpart).2
  | _ => rfl

/-- A word is not the end of the input. -/
lemma wordKind_ne_endOfInput (word : List Char) : wordKind word ≠ .endOfInput := by
  unfold wordKind
  split <;> decide

/-- A mark is not the end of the input. -/
lemma ofMark?_ne_endOfInput {c : Char} {kind : TokenKind} (h : TokenKind.ofMark? c = some kind) :
    kind ≠ .endOfInput := by
  rintro rfl
  unfold TokenKind.ofMark? at h
  split at h <;> cases h

/-- No piece of a text is the end of input. -/
lemma WellFormed.kind_ne_endOfInput {kind : TokenKind} {text : List Char}
    (h : WellFormed (.token kind text)) : kind ≠ .endOfInput := by
  rintro rfl
  generalize hpiece : Piece.token .endOfInput text = piece at h
  cases h with
  | word => exact wordKind_ne_endOfInput _ (Piece.token.inj hpiece).1.symm
  | mark marks => exact ofMark?_ne_endOfInput marks (Piece.token.inj hpiece).1.symm
  | _ => cases hpiece

end ModelSchema.Piece
