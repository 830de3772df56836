import ModelSchema.Source.Token
import ModelSchema.Text.Blank

set_option autoImplicit false

/-!
# Pieces of a source text

A source text is cut from left to right into pieces: blanks, comments and the spellings of tokens.
Each piece is the longest that its first character allows, except that a block comment and a string
end as early as they can. A text at whose start no piece stands is stuck there.

## Main definitions

* `Piece` — a piece of source text, and `Piece.spelling`, its characters.
* `Piece.read?` — the piece at the start of a text.
* `Piece.scan` — the pieces of a text, up to the end or to where it is stuck.

## Main results

* `Piece.spelling_append_of_read?` — a piece and what follows it are the text it was read from.
-/

namespace ModelSchema

/-- A piece of source text. -/
inductive Piece where
  /-- A run of blanks. -/
  | blank (run : List Char)
  /-- What stands after two slashes, up to the end of the line. -/
  | lineComment (body : List Char)
  /-- What stands between a slash with a star and a star with a slash. -/
  | blockComment (body : List Char)
  /-- A token and its text. -/
  | token (kind : TokenKind) (text : List Char)
  deriving DecidableEq, Inhabited, Repr

namespace Piece

/-- The characters of a piece. -/
def spelling : Piece → List Char
  | .blank run => run
  | .lineComment body => '/' :: '/' :: body
  | .blockComment body => '/' :: '*' :: (body ++ ['*', '/'])
  | .token .string text => '"' :: (text ++ ['"'])
  | .token _ text => text

/-! ## Character classes -/

/-- The characters that a word may start with. -/
def isWordStart (c : Char) : Bool :=
  c.isAlpha || c == '_'

/-- The characters that a word may go on with. -/
def isWordPart (c : Char) : Bool :=
  isWordStart c || c.isDigit

/-- The kind of a word. -/
def wordKind (word : List Char) : TokenKind :=
  if word = ['m', 'o', 'd', 'e', 'l'] then .model else .identifier

/-! ## Reading a piece -/

/-- What stands before the first star with a slash, and what stands after it. -/
def splitBlock? : List Char → Option (List Char × List Char)
  | [] => none
  | '*' :: '/' :: cs => some ([], cs)
  | c :: cs => (splitBlock? cs).map fun r => (c :: r.1, r.2)

/-- A comment whose first slash has been read. -/
def readComment? : List Char → Option (Piece × List Char)
  | '/' :: cs => some (.lineComment (cs.takeWhile (· != '\n')), cs.dropWhile (· != '\n'))
  | '*' :: cs => (splitBlock? cs).map fun r => (.blockComment r.1, r.2)
  | _ => none

/-- A string whose opening quote has been read. -/
def readString? (cs : List Char) : Option (Piece × List Char) :=
  match cs.dropWhile (· != '"') with
  | [] => none
  | _ :: rest => some (.token .string (cs.takeWhile (· != '"')), rest)

/-- The piece at the start of a text, and what follows it. -/
def read? : List Char → Option (Piece × List Char)
  | [] => none
  | c :: cs =>
    if Text.isBlank c then
      some (.blank (c :: cs.takeWhile Text.isBlank), cs.dropWhile Text.isBlank)
    else if c.isDigit then
      some (.token .number (c :: cs.takeWhile Char.isDigit), cs.dropWhile Char.isDigit)
    else if isWordStart c then
      let word := c :: cs.takeWhile isWordPart
      some (.token (wordKind word) word, cs.dropWhile isWordPart)
    else if c = '/' then readComment? cs
    else if c = '"' then readString? cs
    else (TokenKind.ofMark? c).map fun kind => (.token kind [c], cs)

/-! ## Tiling -/

/-- A block comment that is split off, its end and the rest make up the text. -/
theorem eq_of_splitBlock? {cs : List Char} {r : List Char × List Char}
    (h : splitBlock? cs = some r) : r.1 ++ '*' :: '/' :: r.2 = cs := by
  fun_induction splitBlock? cs generalizing r with
  | case1 => cases h
  | case2 cs => cases h; rfl
  | case3 c cs _ ih =>
    obtain ⟨s, hs, rfl⟩ := Option.map_eq_some_iff.1 h
    simp [ih hs]

/-- A comment that is read and the rest make up the text. -/
theorem spelling_append_of_readComment? {cs : List Char} {r : Piece × List Char}
    (h : readComment? cs = some r) : r.1.spelling ++ r.2 = '/' :: cs := by
  unfold readComment? at h
  split at h
  · cases h
    simp [spelling, List.takeWhile_append_dropWhile]
  · obtain ⟨s, hs, rfl⟩ := Option.map_eq_some_iff.1 h
    simp [spelling, ← eq_of_splitBlock? hs]
  · cases h

/-- A string that is read and the rest make up the text. -/
theorem spelling_append_of_readString? {cs : List Char} {r : Piece × List Char}
    (h : readString? cs = some r) : r.1.spelling ++ r.2 = '"' :: cs := by
  unfold readString? at h
  split at h
  · cases h
  · next q rest hd =>
    cases h
    have hq : q = '"' := by
      have := List.head_dropWhile_not (· != '"') (l := cs) (by simp [hd])
      simpa [hd] using this
    have ht := List.takeWhile_append_dropWhile (p := (· != '"')) (l := cs)
    rw [hd, hq] at ht
    simp [spelling, ht]

/-- A token that is not a string is spelled as its text. -/
theorem spelling_token_of_ne {kind : TokenKind} (h : kind ≠ .string) (text : List Char) :
    (Piece.token kind text).spelling = text := by
  cases kind <;> first | rfl | exact absurd rfl h

/-- A word is not a string. -/
theorem wordKind_ne_string (word : List Char) : wordKind word ≠ .string := by
  unfold wordKind; split <;> decide

/-- A mark is not a string. -/
theorem ofMark?_ne_string {c : Char} {kind : TokenKind} (h : TokenKind.ofMark? c = some kind) :
    kind ≠ .string := by
  rintro rfl
  unfold TokenKind.ofMark? at h
  split at h <;> cases h

/-- A piece and what follows it are the text it was read from. -/
theorem spelling_append_of_read? {cs : List Char} {r : Piece × List Char} (h : read? cs = some r) :
    r.1.spelling ++ r.2 = cs := by
  unfold read? at h
  split at h
  · cases h
  · next c cs =>
    split at h
    · cases h; simp [spelling, List.takeWhile_append_dropWhile]
    split at h
    · cases h; simp [spelling, List.takeWhile_append_dropWhile]
    split at h
    · cases h
      rw [spelling_token_of_ne (wordKind_ne_string _)]
      simp [List.takeWhile_append_dropWhile]
    split at h
    · next hc => rw [hc]; exact spelling_append_of_readComment? h
    split at h
    · next hc => rw [hc]; exact spelling_append_of_readString? h
    · obtain ⟨kind, hk, rfl⟩ := Option.map_eq_some_iff.1 h
      rw [spelling_token_of_ne (ofMark?_ne_string hk)]
      rfl

/-- A piece that was read has at least one character. -/
theorem spelling_ne_nil_of_read? {cs : List Char} {r : Piece × List Char} (h : read? cs = some r) :
    r.1.spelling ≠ [] := by
  unfold read? at h
  split at h
  · cases h
  · next c cs =>
    split at h
    · cases h; simp [spelling]
    split at h
    · cases h; simp [spelling]
    split at h
    · cases h
      rw [spelling_token_of_ne (wordKind_ne_string _)]
      simp
    split at h
    · unfold readComment? at h
      split at h
      · cases h; simp [spelling]
      · obtain ⟨s, -, rfl⟩ := Option.map_eq_some_iff.1 h
        simp [spelling]
      · cases h
    split at h
    · unfold readString? at h
      split at h
      · cases h
      · cases h; simp [spelling]
    · obtain ⟨kind, hk, rfl⟩ := Option.map_eq_some_iff.1 h
      rw [spelling_token_of_ne (ofMark?_ne_string hk)]
      simp

/-- Reading a piece takes at least one character. -/
theorem length_lt_of_read? {cs : List Char} {r : Piece × List Char} (h : read? cs = some r) :
    r.2.length < cs.length := by
  have hs := List.length_pos_iff.2 (spelling_ne_nil_of_read? h)
  have := congrArg List.length (spelling_append_of_read? h)
  rw [List.length_append] at this
  omega

/-- The pieces of a text, and what is left where it is stuck. -/
def scan (cs : List Char) : List Piece × List Char :=
  match _h : read? cs with
  | none => ([], cs)
  | some r =>
    let s := scan r.2
    (r.1 :: s.1, s.2)
termination_by cs.length
decreasing_by exact length_lt_of_read? _h

end Piece

end ModelSchema
