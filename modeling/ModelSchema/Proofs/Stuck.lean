import Mathlib.Data.List.TakeWhile
import ModelSchema.Proofs.Tiling

set_option autoImplicit false

/-!
# Where a text is stuck

A text that is not cut into tokens is stuck at some character, at which no rule has a piece. The
tokens of what stands before it are whole, and the error is about this character, at the end of what
stands before it. The other way round, a text that is stuck puts an end to whatever tokens stand
before it, but for a comment that goes on.

## Main definitions

* `Piece.IsStuck` — a text at whose start no rule has a piece.
* `Piece.EndsInLineComment` — a text whose last line has a comment that goes on in what follows.

## Main results

* `Piece.isStuck_iff` — a text is stuck if it has characters and no piece is read at its start.
* `Piece.Tiles.cut` — the pieces before the place where a text is stuck tile what stands before it.
* `Piece.Tiles.before_stuck` — the pieces of a text are the same before a text that is stuck.
* `Token.ofText_names_first_stuck` — errors about characters are about the first one at which the
  text is stuck.
-/

namespace ModelSchema

open Lexing Outcome

namespace Piece

/-- A text at whose start no rule has a piece: its first character starts no piece of any sort, or
is a quote that is not closed, or a slash that opens no comment of a line and no comment of a block
that is closed. -/
inductive IsStuck : List Char → Prop where
  | other {c : Char} {cs : List Char} (blank : Text.isBlank c = false) (word : isWordPart c = false)
      (mark : c ∉ "\x7b\x7d[]:;?|@(),".toList) (quote : c ≠ '"') (slash : c ≠ '/') :
      IsStuck (c :: cs)
  | quote {cs : List Char} (unclosed : '"' ∉ cs) : IsStuck ('"' :: cs)
  | slash {cs : List Char} (line : cs.head? ≠ some '/')
      (block : ∀ body, cs = '*' :: body → ¬ ['*', '/'] <:+: body) : IsStuck ('/' :: cs)

/-! ## Stuck texts -/

/-- The marks are these twelve characters. -/
lemma ofMark?_eq_none_iff {c : Char} :
    TokenKind.ofMark? c = none ↔ c ∉ "\x7b\x7d[]:;?|@(),".toList := by
  unfold TokenKind.ofMark?
  split <;> simp_all

/-- A block comment is not closed where its end does not occur. -/
lemma splitBlock?_eq_none_iff {cs : List Char} : splitBlock? cs = none ↔ ¬ ['*', '/'] <:+: cs := by
  fun_induction splitBlock? cs with
  | case1 => simp
  | case2 cs =>
    have hinside : ['*', '/'] <:+: '*' :: '/' :: cs := (List.prefix_append ['*', '/'] cs).isInfix
    simp [hinside]
  | case3 c cs hne ih =>
    rw [Option.map_eq_none_iff, ih, List.infix_cons_iff, not_or]
    refine ⟨fun h => ⟨?_, h⟩, And.right⟩
    rintro ⟨rest, hrest⟩
    obtain ⟨rfl, hcs⟩ := List.cons_eq_cons.1 hrest
    exact hne rest rfl hcs.symm

/-- After a slash, no comment is read when neither a second slash follows nor a block that is
closed. -/
lemma readComment?_eq_none_iff {cs : List Char} :
    readComment? cs = none ↔
      cs.head? ≠ some '/' ∧ ∀ body, cs = '*' :: body → ¬ ['*', '/'] <:+: body := by
  unfold readComment?
  split
  · simp
  · simp [splitBlock?_eq_none_iff]
  · next hline hblock =>
    refine iff_of_true rfl ⟨?_, fun body he => (hblock body he).elim⟩
    cases cs with
    | nil => nofun
    | cons c cs => exact fun hc => hline cs (by rw [Option.some.inj hc])

/-- A string is not closed where no quote follows. -/
lemma readString?_eq_none_iff {cs : List Char} : readString? cs = none ↔ '"' ∉ cs := by
  have hdrop : cs.dropWhile (· != '"') = [] ↔ '"' ∉ cs := by
    simp [List.dropWhile_eq_nil_iff, List.forall_mem_ne']
  rw [← hdrop]
  unfold readString?
  split
  · next h => simp [h]
  · next h => simp [h]

/-- **A text is stuck** if it has characters, and no piece is read at its start. -/
theorem isStuck_iff {cs : List Char} : IsStuck cs ↔ cs ≠ [] ∧ read? cs = none := by
  constructor
  · intro h
    cases h with
    | other blank word mark quote slash =>
      obtain ⟨hstart, hdigit⟩ := Bool.or_eq_false_iff.1 word
      refine ⟨List.cons_ne_nil _ _, ?_⟩
      rw [read?, if_neg (by simp [blank]), if_neg (by simp [hdigit]), if_neg (by simp [hstart]),
        if_neg slash, if_neg quote, ofMark?_eq_none_iff.2 mark]
      rfl
    | quote unclosed => exact ⟨List.cons_ne_nil _ _, readString?_eq_none_iff.2 unclosed⟩
    | slash line block => exact ⟨List.cons_ne_nil _ _, readComment?_eq_none_iff.2 ⟨line, block⟩⟩
  · rintro ⟨hne, h⟩
    cases cs with
    | nil => exact absurd rfl hne
    | cons c cs =>
      rw [read?] at h
      split at h
      · cases h
      next hblank =>
      split at h
      · cases h
      next hdigit =>
      split at h
      · cases h
      next hstart =>
      split at h
      · next hslash =>
        obtain ⟨hline, hblock⟩ := readComment?_eq_none_iff.1 h
        exact hslash ▸ .slash hline hblock
      next hslash =>
      split at h
      · next hquote => exact hquote ▸ .quote (readString?_eq_none_iff.1 h)
      next hquote =>
      refine .other (Bool.eq_false_iff.2 hblank) ?_ ?_ hquote hslash
      · exact Bool.or_eq_false_iff.2 ⟨Bool.eq_false_iff.2 hstart, Bool.eq_false_iff.2 hdigit⟩
      · exact ofMark?_eq_none_iff.1 (Option.map_eq_none_iff.1 h)

/-- A text that is stuck begins with neither a blank nor a part of a word. -/
lemma IsStuck.classes {c : Char} {cs : List Char} (h : IsStuck (c :: cs)) :
    Text.isBlank c = false ∧ isWordPart c = false := by
  cases h with
  | other blank word => exact ⟨blank, word⟩
  | quote => decide
  | slash => decide

/-- No piece goes on in a text that is stuck, except for the comment of a line. -/
lemma IsStuck.stops {rest : List Char} {piece : Piece} (h : IsStuck rest) :
    Stops piece.goesOn rest ↔ ∀ body, piece ≠ .lineComment body := by
  cases rest with
  | nil => cases h
  | cons c cs =>
    obtain ⟨hblank, hword⟩ := h.classes
    cases piece with
    | blank run => exact iff_of_true (stops_cons hblank cs) nofun
    | lineComment body =>
      refine iff_of_false (fun hstops => ?_) (fun hne => hne body rfl)
      -- only a line feed ends the comment, and that is a blank
      have hc : c = '\n' := by simpa [goesOn] using hstops c rfl
      rw [hc] at hblank
      cases hblank
    | blockComment body => exact iff_of_true (fun _ _ => rfl) nofun
    | token kind text => exact iff_of_true (stops_token (stops_cons hword cs) kind text) nofun

/-! ## Cutting and joining -/

variable {rest cs : List Char} {piece : Piece} {pieces : List Piece}

/-- A piece is spelled by a character at least. -/
lemma WellFormed.spelling_ne_nil (h : piece.WellFormed) : piece.spelling ≠ [] :=
  spelling_ne_nil_of_read? (h.read? stops_nil)

/-- The last piece does not go on in the rest. -/
lemma Tiles.stops_last (h : Tiles rest (pieces ++ [piece]) cs) : Stops piece.goesOn rest := by
  induction pieces generalizing cs with
  | nil =>
    cases h with
    | cons _ stops others =>
      cases others
      exact stops
  | cons first pieces ih =>
    cases h with
    | cons _ _ others => exact ih others

/-- The pieces before the rest tile what stands before it. -/
lemma Tiles.cut (h : Tiles rest pieces cs) : Tiles [] pieces (pieces.flatMap spelling) := by
  induction h with
  | nil => exact .nil
  | @cons piece pieces cs form stops others ih =>
    rw [List.flatMap_cons]
    refine .cons form ?_ ih
    rw [← others.flatMap_append] at stops
    intro c hc
    exact stops c (by rw [List.head?_append, hc]; rfl)

/-- The pieces of a text are the same in front of a rest in which the last of them does not go
on. -/
lemma Tiles.append (h : Tiles [] pieces cs)
    (hlast : ∀ last ∈ pieces.getLast?, Stops last.goesOn rest) :
    Tiles rest pieces (cs ++ rest) := by
  induction pieces generalizing cs with
  | nil =>
    cases h
    exact .nil
  | cons piece pieces ih =>
    cases h with
    | @cons _ _ ds form stops others =>
      rw [List.append_assoc]
      cases others with
      | nil => exact .cons form (hlast piece rfl) .nil
      | @cons next pieces es form' stops' others' =>
        refine .cons form ?_ (ih (.cons form' stops' others') ?_)
        · -- what follows the piece is not empty, so its first character is the same
          obtain ⟨c, word, hword⟩ := List.exists_cons_of_ne_nil form'.spelling_ne_nil
          rw [hword, List.cons_append, List.cons_append]
          exact stops_cons (stops c (by rw [hword]; rfl)) _
        · intro last hmem
          exact hlast last (by rwa [List.getLast?_cons_cons])

/-- A text whose last line has a comment that goes on in what follows. -/
def EndsInLineComment (cs : List Char) : Prop :=
  ∃ pieces body, Tiles [] (pieces ++ [.lineComment body]) cs

/-- The pieces of a text are the same before a text that is stuck, unless the first text ends in the
comment of a line. -/
lemma Tiles.before_stuck (h : Tiles [] pieces cs) (hrest : IsStuck rest)
    (hends : ¬ EndsInLineComment cs) : Tiles rest pieces (cs ++ rest) := by
  refine h.append fun last hlast => hrest.stops.2 ?_
  rintro body rfl
  obtain ⟨before, hbefore⟩ := List.getLast?_eq_some_iff.1 hlast
  exact hends ⟨before, body, hbefore ▸ h⟩

/-- What stands before a place where a text is stuck does not end in the comment of a line. -/
lemma Tiles.not_endsInLineComment (h : Tiles rest pieces cs) (hrest : IsStuck rest) :
    ¬ EndsInLineComment (pieces.flatMap spelling) := by
  rintro ⟨before, body, hbefore⟩
  obtain rfl : pieces = before ++ [.lineComment body] :=
    (Prod.mk.inj ((h.cut.scan rfl).symm.trans (hbefore.scan rfl))).1
  exact hrest.stops.1 h.stops_last body rfl

end Piece

namespace Token

/-- Pieces have no unexpected character. -/
lemma ofPieces_ne_unexpectedCharacter {pieces : List Piece} {position : Position} {found : Char}
    {place : Position} : ofPieces position pieces ≠ .error (.unexpectedCharacter found place) := by
  induction pieces generalizing position with
  | nil => nofun
  | cons piece pieces ih =>
    intro h
    rcases bind_eq_error.1 h with h | ⟨_, _, h⟩
    · unfold Piece.token? at h
      split at h
      · split at h <;> cases h
      · cases h
    · rcases bind_eq_error.1 h with h | ⟨_, _, h⟩
      · exact ih h
      · cases h

/-- The pieces of a text that is stuck, and its tokens before that. -/
lemma exists_tiles_of_unexpectedCharacter {cs : List Char} {c : Char} {start position : Position}
    (h : readFrom start cs = .error (.unexpectedCharacter c position)) :
    ∃ pieces rest ts, Piece.Tiles rest pieces cs ∧ Piece.IsStuck rest ∧ rest.head? = some c ∧
      ofPieces start pieces = .ok ts ∧
      start.advance (pieces.flatMap Piece.spelling) = position := by
  have htiles := Piece.tiles_scan cs
  have hread := Piece.read?_scan cs
  rw [readFrom_of_tiles htiles hread] at h
  generalize (Piece.scan cs).1 = pieces at htiles h
  generalize (Piece.scan cs).2 = rest at htiles hread h
  -- the pieces before the place where the text is stuck are looked at first, but only for their
  -- numbers
  rcases bind_eq_error.1 h with hnumber | ⟨ts, hts, h⟩
  · exact absurd hnumber ofPieces_ne_unexpectedCharacter
  · cases rest with
    | nil => cases h
    | cons d rest =>
      cases h
      exact ⟨pieces, c :: rest, ts, htiles, Piece.isStuck_iff.2 ⟨List.cons_ne_nil _ _, hread⟩, rfl,
        hts, rfl⟩

/-- **Errors about characters name the first one that is stuck.** When a character is reported, the
text consists of one that has tokens, up to the position that is reported, and of one that is stuck
at this character. The other way round, whatever has tokens and is followed by a text that is stuck,
other than in a comment of its last line, is reported with the first character of that text and the
position of the end of input before it.

**Proof sketch.** The pieces that tile a text up to where it is stuck tile what stands before that,
and they are the ones that are read there. -/
theorem ofText_names_first_stuck :
    (∀ text c position, ofText text = .error (.unexpectedCharacter c position) →
      ∃ read rest ts, text = read ++ rest ∧
        ofText read = .ok (ts ++ [⟨.endOfInput, "", position⟩]) ∧
        Piece.IsStuck rest.toList ∧ rest.toList.head? = some c ∧
        ¬ Piece.EndsInLineComment read.toList) ∧
    ∀ read rest tokens, ofText read = .ok tokens → ¬ Piece.EndsInLineComment read.toList →
      Piece.IsStuck rest.toList →
      ∃ ts position c, tokens = ts ++ [⟨.endOfInput, "", position⟩] ∧ rest.toList.head? = some c ∧
        ofText (read ++ rest) = .error (.unexpectedCharacter c position) := by
  constructor
  · intro text c position h
    rw [ofText_eq_readFrom] at h
    obtain ⟨pieces, rest, ts, htiles, hrest, hc, hts, rfl⟩ := exists_tiles_of_unexpectedCharacter h
    refine ⟨String.ofList (pieces.flatMap Piece.spelling), String.ofList rest, ts,
      ?_, ?_, ?_, ?_, ?_⟩
    · rw [← String.ofList_append, htiles.flatMap_append, String.ofList_toList]
    · rw [ofText_eq_readFrom, String.toList_ofList, readFrom_of_tiles htiles.cut rfl, hts]
      rfl
    · rwa [String.toList_ofList]
    · rwa [String.toList_ofList]
    · rw [String.toList_ofList]
      exact htiles.not_endsInLineComment hrest
  · intro read rest tokens h hends hrest
    rw [ofText_eq_readFrom] at h
    obtain ⟨pieces, ts, htiles, hts, rfl⟩ := exists_tiles_of_readFrom h
    obtain ⟨hne, hstuck⟩ := Piece.isStuck_iff.1 hrest
    have hread := htiles.flatMap_append
    rw [List.append_nil] at hread
    obtain ⟨c, cs, hcs⟩ := List.exists_cons_of_ne_nil hne
    refine ⟨ts, _, c, rfl, by rw [hcs]; rfl, ?_⟩
    rw [ofText_eq_readFrom, String.toList_append,
      readFrom_of_tiles (htiles.before_stuck hrest hends) hstuck, hts, hcs, hread]
    rfl

/-! ### A quote that is not closed -/

/-- The text `x:` with a line feed and a blank. -/
def colonText : String :=
  "x:\n "

/-- A text with a quote that is not closed, after which there would be more pieces. -/
def unclosedText : String :=
  "\"abc /* */"

/-- The quote that is not closed is where the tokens before it end. -/
theorem ofText_names_first_stuck_unclosed :
    ofText (colonText ++ unclosedText) = .error (.unexpectedCharacter '"' ⟨2, 2⟩) ∧
      ∃ read rest ts, colonText ++ unclosedText = read ++ rest ∧
        ofText read = .ok (ts ++ [⟨.endOfInput, "", ⟨2, 2⟩⟩]) ∧ Piece.IsStuck rest.toList ∧
        rest.toList.head? = some '"' ∧ ¬ Piece.EndsInLineComment read.toList := by
  have hread : ofText colonText =
      .ok ([⟨.identifier, "x", ⟨1, 1⟩⟩, ⟨.colon, ":", ⟨1, 2⟩⟩] ++ [⟨.endOfInput, "", ⟨2, 2⟩⟩]) := by
    decide +kernel
  have hscan : Piece.scan colonText.toList =
      ([.token .identifier ['x'], .token .colon [':'], .blank ['\n', ' ']], []) := by decide +kernel
  have hends : ¬ Piece.EndsInLineComment colonText.toList := by
    rintro ⟨pieces, body, hbody⟩
    have hlast := congrArg (·.1.getLast?) ((hbody.scan rfl).symm.trans hscan)
    rw [List.getLast?_concat] at hlast
    cases hlast
  have hrest : Piece.IsStuck unclosedText.toList := .quote (by decide)
  obtain ⟨ts, position, c, hts, hc, h⟩ := ofText_names_first_stuck.2 _ _ _ hread hends hrest
  cases (List.append_inj' hts rfl).2
  cases hc
  exact ⟨h, ofText_names_first_stuck.1 _ _ _ h⟩

end Token

end ModelSchema
