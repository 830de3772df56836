import ModelSchema.Json.Numeral

set_option autoImplicit false

/-!
# Tokens of a JSON text

A JSON text is a sequence of tokens with blanks (spaces, tabs, line feeds, carriage returns) between
them. A string may hold escapes that pair up to no character: it is still one token, but it denotes
no text.

## Main definitions

* `Json.Token` — a token.
* `Json.joinSurrogates` — the characters that a sequence of code units denotes.
* `Json.Token.read?` — the token at the start of a text.
* `Json.Token.all?` — all tokens of a text.

## Main results

* `Json.Token.length_lt_of_read?` — reading a token takes at least one character.
-/

namespace ModelSchema.Json

/-- A token of a JSON text. A string whose escapes do not pair up to characters denotes none. -/
inductive Token where
  | openBrace
  | closeBrace
  | openBracket
  | closeBracket
  | colon
  | comma
  | null
  | bool (value : Bool)
  | number (value : Numeral)
  | string (value : Option String)
  deriving DecidableEq, Inhabited, Repr

/-- The blanks that JSON allows between tokens. -/
def isBlank (c : Char) : Bool :=
  c == ' ' || c == '\n' || c == '\t' || c == '\r'

/-! ## Strings -/

/-- The value of a hexadecimal digit. -/
def hexDigit? (c : Char) : Option Nat :=
  let n := c.toNat
  if 48 ≤ n ∧ n ≤ 57 then some (n - 48)
  else if 97 ≤ n ∧ n ≤ 102 then some (n - 87)
  else if 65 ≤ n ∧ n ≤ 70 then some (n - 55)
  else none

/-- The value of four hexadecimal digits. -/
def hexUnit? (a b c d : Char) : Option Nat := do
  let a ← hexDigit? a
  let b ← hexDigit? b
  let c ← hexDigit? c
  let d ← hexDigit? d
  some (((a * 16 + b) * 16 + c) * 16 + d)

/-- The character that a one-letter escape stands for. -/
def shortEscape? : Char → Option Char
  | '"' => some '"'
  | '\\' => some '\\'
  | '/' => some '/'
  | 'b' => some '\x08'
  | 'f' => some '\x0c'
  | 'n' => some '\n'
  | 'r' => some '\r'
  | 't' => some '\t'
  | _ => none

/-- The code points of a string whose opening quote has been read, and what follows its closing
quote. An escape by code is one code unit, which may be a surrogate. Controls below U+0020 are
refused. -/
def readUnits? : List Char → Option (List Nat × List Char)
  | [] => none
  | '"' :: cs => some ([], cs)
  | '\\' :: 'u' :: a :: b :: c :: d :: cs =>
    (hexUnit? a b c d).bind fun unit => (readUnits? cs).map fun r => (unit :: r.1, r.2)
  | '\\' :: e :: cs =>
    (shortEscape? e).bind fun c => (readUnits? cs).map fun r => (c.toNat :: r.1, r.2)
  | c :: cs =>
    if c = '\\' ∨ c.toNat < 0x20 then none
    else (readUnits? cs).map fun r => (c.toNat :: r.1, r.2)

/-- Reading a string takes at least its closing quote. -/
theorem length_lt_of_readUnits? {cs : List Char} {r : List Nat × List Char}
    (h : readUnits? cs = some r) : r.2.length < cs.length := by
  fun_induction readUnits? cs generalizing r with
  | case1 => cases h
  | case2 cs => cases h; simp
  | case3 a b c d cs ih =>
    obtain ⟨unit, -, h⟩ := Option.bind_eq_some_iff.1 h
    obtain ⟨r, hr, rfl⟩ := Option.map_eq_some_iff.1 h
    have := ih hr
    simp only [List.length_cons]; omega
  | case4 e cs _ ih =>
    obtain ⟨c, -, h⟩ := Option.bind_eq_some_iff.1 h
    obtain ⟨r, hr, rfl⟩ := Option.map_eq_some_iff.1 h
    have := ih hr
    simp only [List.length_cons]; omega
  | case5 => cases h
  | case6 c cs _ _ _ _ ih =>
    obtain ⟨r, hr, rfl⟩ := Option.map_eq_some_iff.1 h
    have := ih hr
    simp only [List.length_cons]; omega

/-- The characters that code units denote: a leading surrogate and the trailing surrogate right
after it are one character, and a surrogate that stands alone is none. -/
def joinSurrogates : List Nat → Option (List Char)
  | [] => some []
  | [n] => if n < 0xD800 ∨ 0xE000 ≤ n then some [Char.ofNat n] else none
  | n :: m :: rest =>
    if n < 0xD800 ∨ 0xE000 ≤ n then
      (joinSurrogates (m :: rest)).map (Char.ofNat n :: ·)
    else if n < 0xDC00 ∧ 0xDC00 ≤ m ∧ m < 0xE000 then
      (joinSurrogates rest).map
        (Char.ofNat (0x10000 + (n - 0xD800) * 0x400 + (m - 0xDC00)) :: ·)
    else none

/-! ## Tokens -/

namespace Token

/-- The token at the start of a text that does not start with a blank, and what follows it. -/
def read? : List Char → Option (Token × List Char)
  | '{' :: cs => some (.openBrace, cs)
  | '}' :: cs => some (.closeBrace, cs)
  | '[' :: cs => some (.openBracket, cs)
  | ']' :: cs => some (.closeBracket, cs)
  | ':' :: cs => some (.colon, cs)
  | ',' :: cs => some (.comma, cs)
  | 'n' :: 'u' :: 'l' :: 'l' :: cs => some (.null, cs)
  | 't' :: 'r' :: 'u' :: 'e' :: cs => some (.bool true, cs)
  | 'f' :: 'a' :: 'l' :: 's' :: 'e' :: cs => some (.bool false, cs)
  | '"' :: cs =>
    (readUnits? cs).map fun r => (.string ((joinSurrogates r.1).map String.ofList), r.2)
  | cs => (Numeral.read? cs).map fun r => (.number r.1, r.2)

/-- Reading a token takes at least one character.
**Proof sketch.** The marks and words take the characters they match. A string takes its opening
quote and then at least its closing one, and a number takes at least the digits of its whole
part. -/
theorem length_lt_of_read? {cs : List Char} {r : Token × List Char} (h : read? cs = some r) :
    r.2.length < cs.length := by
  unfold read? at h
  split at h
  case h_10 cs =>
    obtain ⟨u, hu, rfl⟩ := Option.map_eq_some_iff.1 h
    have := length_lt_of_readUnits? hu
    simp only [List.length_cons]; omega
  case h_11 =>
    obtain ⟨u, hu, rfl⟩ := Option.map_eq_some_iff.1 h
    exact Numeral.length_lt_of_read? hu
  all_goals
    cases h
    simp only [List.length_cons]
    omega

/-- All tokens of a text, if blanks and tokens are all there is. -/
def all? (cs : List Char) : Option (List Token) :=
  match _hb : cs.dropWhile isBlank with
  | [] => some []
  | c :: rest =>
    match _ht : read? (c :: rest) with
    | none => none
    | some r => (all? r.2).map (r.1 :: ·)
termination_by cs.length
decreasing_by
  have h₁ := length_lt_of_read? _ht
  have h₂ := (List.dropWhile_sublist (l := cs) isBlank).length_le
  rw [_hb] at h₂
  omega

end Token

end ModelSchema.Json
