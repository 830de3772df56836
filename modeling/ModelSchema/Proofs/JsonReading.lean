import Mathlib.Data.List.Forall2
import ModelSchema.Json.Printer
import ModelSchema.Json.Tree
import ModelSchema.Proofs.Lexing

set_option autoImplicit false

/-!
# Reading written JSON back

A JSON value that is written without blanks, or indented, is read as the tree of that value: all
strings and all numbers come back as they were.

## Main definitions

* `Json.numeral`, `Json.tree` — what a number and a value are read as.
* `Json.tokens` — the tokens of a value.
* `Json.Layout.IsBlank` — a layout has nothing but blanks between tokens.

## Main results

* `Json.writes_quoted`, `Json.writes_digits`, `Json.writes_chars` — the tokens of a written string,
  of a written number and of a written value.
* `Json.Reading.run_value` — reading the tokens of a value supplies its tree.
* `Json.Tree.ofText?_compact`, `Json.Tree.ofText?_pretty` — a written value is read as its tree.
-/

namespace ModelSchema.Json

/-! ## Trees and tokens of values -/

/-- A number is read as its decimal digits. -/
def numeral (n : Nat) : Numeral :=
  ⟨false, Nat.toDigits 10 n, none, none⟩

mutual

/-- What a value is read as. -/
def tree : Json → Tree
  | .null => .null
  | .bool b => .bool b
  | .number n => .number (numeral n)
  | .string s => .string (some s)
  | .array items => .array (itemTrees items)
  | .object members => .object (memberTrees members)

/-- What items are read as. -/
def itemTrees : List Json → List Tree
  | [] => []
  | item :: items => item.tree :: itemTrees items

/-- What members are read as. -/
def memberTrees : List (String × Json) → List (Option String × Tree)
  | [] => []
  | (name, value) :: members => (some name, value.tree) :: memberTrees members

end

/-- Runs of tokens with commas between them. -/
def joined : List (List Token) → List Token
  | [] => []
  | ts :: runs => ts ++ runs.flatMap (.comma :: ·)

mutual

/-- The tokens of a value. -/
def tokens : Json → List Token
  | .null => [.null]
  | .bool b => [.bool b]
  | .number n => [.number (numeral n)]
  | .string s => [.string (some s)]
  | .array items => .openBracket :: (joined (itemTokens items) ++ [.closeBracket])
  | .object members => .openBrace :: (joined (memberTokens members) ++ [.closeBrace])

/-- The tokens of each item. -/
def itemTokens : List Json → List (List Token)
  | [] => []
  | item :: items => item.tokens :: itemTokens items

/-- The tokens of each member. -/
def memberTokens : List (String × Json) → List (List Token)
  | [] => []
  | (name, value) :: members =>
    (.string (some name) :: .colon :: value.tokens) :: memberTokens members

end

/-- The trees of the items, one by one. -/
lemma itemTrees_eq_map (items : List Json) : itemTrees items = items.map tree := by
  induction items with
  | nil => rfl
  | cons item items ih => rw [itemTrees, List.map_cons, ih]

/-! ## Tokens of what is written -/

/-- The characters that a number may go on with. -/
def goesOn (c : Char) : Bool :=
  c.isDigit || ['.', 'e', 'E'].contains c

/-- Characters have given tokens, whatever follows them that no number goes on in. -/
abbrev Writes (cs : List Char) (ts : List Token) : Prop :=
  Lexing.Writes Token.all? goesOn cs ts

section Tokens

variable {c : Char} {cs rest : List Char} {ts : List Token} {t : Token}

/-- No token goes on with a blank. -/
lemma goesOn_eq_false_of_isBlank (h : isBlank c = true) : goesOn c = false := by
  simp only [isBlank, Bool.or_eq_true, beq_iff_eq] at h
  obtain ((rfl | rfl) | rfl) | rfl := h <;> rfl

/-- A blank before a token is passed over. -/
lemma all?_blank (h : isBlank c = true) : Token.all? (c :: cs) = Token.all? cs := by
  rw [Token.all?, Token.all?, List.dropWhile_cons_of_pos h]

/-- A token is read before the others. -/
lemma all?_token (h : isBlank c = false) (hread : Token.read? (c :: cs) = some (t, rest)) :
    Token.all? (c :: cs) = (Token.all? rest).map (t :: ·) := by
  rw [Token.all?]
  have hdrop : (c :: cs).dropWhile isBlank = c :: cs := List.dropWhile_cons_of_neg (by simp [h])
  split
  · next hnil => simp [hdrop] at hnil
  · next hcons =>
    rw [hdrop] at hcons
    cases hcons
    split
    · next hnone => simp [hread] at hnone
    · next r hsome =>
      rw [hread] at hsome
      cases hsome
      rfl

/-- Nothing writes no tokens. -/
lemma Writes.nil : Writes [] [] :=
  Lexing.Writes.nil

/-- A blank in front writes no token. -/
lemma Writes.blank (h : isBlank c = true) (hw : Writes cs ts) : Writes (c :: cs) ts :=
  Lexing.Writes.gap (fun _ => all?_blank h) hw

/-- Blanks in a row are passed over. -/
lemma Writes.blanks {bs : List Char} (h : ∀ b ∈ bs, isBlank b = true) (hw : Writes cs ts) :
    Writes (bs ++ cs) ts := by
  induction bs with
  | nil => exact hw
  | cons b bs ih =>
    rw [List.forall_mem_cons] at h
    exact (ih h.2).blank h.1

/-- A character is a token of its own, and no number goes on with it. -/
structure IsMark (c : Char) (t : Token) : Prop where
  notBlank : isBlank c = false
  stops : goesOn c = false
  read (cs : List Char) : Token.read? (c :: cs) = some (t, cs)

/-- A mark in front writes its token. -/
lemma Writes.mark (h : IsMark c t) (hw : Writes cs ts) : Writes (c :: cs) (t :: ts) :=
  Lexing.Writes.mark (fun cs => all?_token h.notBlank (h.read cs)) hw

/-- The opening bracket is a mark. -/
lemma isMark_openBracket : IsMark '[' .openBracket := ⟨rfl, rfl, fun _ => rfl⟩

/-- The closing bracket is a mark. -/
lemma isMark_closeBracket : IsMark ']' .closeBracket := ⟨rfl, rfl, fun _ => rfl⟩

/-- The opening brace is a mark. -/
lemma isMark_openBrace : IsMark '{' .openBrace := ⟨rfl, rfl, fun _ => rfl⟩

/-- The closing brace is a mark. -/
lemma isMark_closeBrace : IsMark '}' .closeBrace := ⟨rfl, rfl, fun _ => rfl⟩

/-- The colon is a mark. -/
lemma isMark_colon : IsMark ':' .colon := ⟨rfl, rfl, fun _ => rfl⟩

/-- The comma is a mark. -/
lemma isMark_comma : IsMark ',' .comma := ⟨rfl, rfl, fun _ => rfl⟩

/-- Characters that are read as one token, whatever follows them that no number goes on in. -/
lemma writes_token (h : isBlank c = false)
    (hread : ∀ rest, Lexing.Stops goesOn rest → Token.read? (c :: (cs ++ rest)) = some (t, rest)) :
    Writes (c :: cs) [t] :=
  fun rest hrest => all?_token h (hread rest hrest)

/-! ### Strings -/

/-- Reading the escape of a control character gives its code. -/
lemma readUnits?_hexEscape (h : c.toNat < 0x20) (rest : List Char) :
    readUnits? (hexEscape c ++ rest) = (readUnits? rest).map fun r => (c.toNat :: r.1, r.2) := by
  have hunit : ∀ n : Fin 32,
      hexUnit? '0' '0' (Nat.digitChar (n / 16)) (Nat.digitChar (n % 16)) = some n.val := by decide
  rw [hexEscape, List.cons_append, List.cons_append, List.cons_append, List.cons_append,
    List.cons_append, List.cons_append, List.nil_append, readUnits?, hunit ⟨c.toNat, h⟩]
  rfl

/-- Reading a character of a string gives its code. -/
lemma readUnits?_quotedChar (c : Char) (rest : List Char) :
    readUnits? (quotedChar c ++ rest) = (readUnits? rest).map fun r => (c.toNat :: r.1, r.2) := by
  unfold quotedChar
  split
  case h_8 hquote hslash _ _ _ _ _ =>
    split
    · next h => exact readUnits?_hexEscape h rest
    · next h =>
      rw [List.singleton_append, readUnits?.eq_5, if_neg (not_or.2 ⟨hslash, h⟩)]
      · exact hquote
      · exact fun _ _ _ _ _ h _ => hslash h
      · exact fun _ _ h _ => hslash h
  all_goals rfl

/-- Reading a string gives the codes of its characters. -/
lemma readUnits?_flatMap (cs rest : List Char) :
    readUnits? (cs.flatMap quotedChar ++ '"' :: rest) = some (cs.map Char.toNat, rest) := by
  induction cs with
  | nil => rw [List.flatMap_nil, List.nil_append, readUnits?, List.map_nil]
  | cons c cs ih =>
    rw [List.flatMap_cons, List.append_assoc, readUnits?_quotedChar, ih]
    rfl

/-- The codes of characters denote these characters, as no character is a surrogate. -/
lemma joinSurrogates_map (cs : List Char) : joinSurrogates (cs.map Char.toNat) = some cs := by
  have hcode (c : Char) : c.toNat < 0xD800 ∨ 0xE000 ≤ c.toNat := by
    rcases c.valid with h | h
    · exact .inl h
    · exact .inr h.1
  induction cs with
  | nil => rfl
  | cons c cs ih =>
    cases cs with
    | nil => simp [joinSurrogates, hcode c]
    | cons d cs =>
      rw [List.map_cons, List.map_cons, joinSurrogates, if_pos (hcode c), ← List.map_cons, ih]
      simp

/-- A string is one token. -/
lemma writes_quoted (s : String) : Writes (quotedChars s.toList) [.string (some s)] := by
  refine writes_token rfl fun rest _ => ?_
  rw [List.append_assoc, List.singleton_append, Token.read?, readUnits?_flatMap, Option.map_some,
    joinSurrogates_map, Option.map_some, String.ofList_toList]

/-! ### Numbers -/

/-- Digits start with a zero only where they are those of zero. -/
lemma eq_zero_of_head_toDigits {n : ℕ} (h : (Nat.toDigits 10 n).head? = some '0') : n = 0 := by
  induction n using Nat.strongRecOn with
  | ind n ih =>
    by_cases hn : n < 10
    · rw [Nat.toDigits_of_lt_base hn] at h
      have hdigit : ∀ n : Fin 10, n.val.digitChar = '0' → n.val = 0 := by decide
      exact hdigit ⟨n, hn⟩ (by simpa using h)
    · rw [Nat.toDigits_of_base_le (by decide) (by omega),
        List.head?_append_of_ne_nil _ Nat.toDigits_ne_nil] at h
      have := ih (n / 10) (by omega) h
      omega

/-- The whole part of a number is all of its digits, if no further digit follows. -/
lemma readWhole?_toDigits (n : ℕ) (hrest : Lexing.Stops goesOn rest) :
    Numeral.readWhole? (Nat.toDigits 10 n ++ rest) = some (Nat.toDigits 10 n, rest) := by
  have hdigits : ∀ d ∈ Nat.toDigits 10 n, d.isDigit = true := fun d hd =>
    Nat.isDigit_of_mem_toDigits (by decide) (by decide) hd
  have hends : Lexing.Stops Char.isDigit rest := fun d hd => (Bool.or_eq_false_iff.1 (hrest d hd)).1
  cases hn : Nat.toDigits 10 n with
  | nil => exact absurd hn Nat.toDigits_ne_nil
  | cons d ds =>
    rw [hn] at hdigits
    by_cases hzero : d = '0'
    · have : n = 0 := eq_zero_of_head_toDigits (by rw [hn, hzero]; rfl)
      subst this
      obtain ⟨rfl, rfl⟩ : '0' = d ∧ [] = ds := List.cons.inj hn
      rfl
    · obtain ⟨htake, hdrop⟩ :=
        Lexing.takeWhile_append_of_stops (fun e he => hdigits e (.tail d he)) hends
      rw [List.cons_append, Numeral.readWhole?.eq_2 _ _ hzero,
        if_pos (hdigits d List.mem_cons_self), htake, hdrop]

/-- Where no number goes on there is no fraction. -/
lemma readFraction_of_stops (hrest : Lexing.Stops goesOn rest) :
    Numeral.readFraction rest = (none, rest) := by
  unfold Numeral.readFraction
  split
  · exact absurd (hrest '.' rfl) (by decide)
  · rfl

/-- Where no number goes on there is no exponent. -/
lemma readExponent_of_stops (hrest : Lexing.Stops goesOn rest) :
    Numeral.readExponent rest = (none, rest) := by
  unfold Numeral.readExponent
  split
  · rfl
  · next c cs =>
    rw [if_neg]
    rintro (rfl | rfl)
    · exact absurd (hrest _ rfl) (by decide)
    · exact absurd (hrest _ rfl) (by decide)

/-- A character that starts no other token starts a number. -/
lemma read?_digit (h : c.isDigit = true) (cs : List Char) :
    Token.read? (c :: cs) =
      (Numeral.readUnsigned? false (c :: cs)).map fun r => (.number r.1, r.2) := by
  have hne {d : Char} (hd : d.isDigit = false) : c ≠ d := by
    rintro rfl
    rw [h] at hd
    cases hd
  rw [Token.read?.eq_11, Numeral.read?.eq_2]
  all_goals
    rintro _ ⟨⟩
    exact hne rfl rfl

/-- Digits are read as a number without a point and an exponent. -/
lemma readUnsigned?_toDigits (n : ℕ) (hrest : Lexing.Stops goesOn rest) :
    Numeral.readUnsigned? false (Nat.toDigits 10 n ++ rest) = some (numeral n, rest) := by
  rw [Numeral.readUnsigned?, readWhole?_toDigits n hrest, Option.map_some]
  simp only [readFraction_of_stops hrest, readExponent_of_stops hrest]
  rfl

/-- The decimal digits of a number are one token. -/
lemma writes_digits (n : ℕ) : Writes (Nat.toDigits 10 n) [.number (numeral n)] := by
  cases hn : Nat.toDigits 10 n with
  | nil => exact absurd hn Nat.toDigits_ne_nil
  | cons d ds =>
    have hd : d.isDigit = true :=
      Nat.isDigit_of_mem_toDigits (by decide) (by decide) (hn ▸ List.mem_cons_self)
    have hblank : isBlank d = false := by
      refine Bool.eq_false_iff.2 fun hblank => ?_
      have hgoes := goesOn_eq_false_of_isBlank hblank
      simp [goesOn, hd] at hgoes
    refine writes_token hblank fun rest hrest => ?_
    rw [read?_digit hd, ← List.cons_append, ← hn, readUnsigned?_toDigits n hrest]
    rfl

/-! ### Values -/

/-- There is nothing but blanks between tokens. -/
structure Layout.IsBlank (layout : Layout) : Prop where
  gap : ∀ level, ∀ c ∈ layout.gap level, isBlank c = true
  afterColon : ∀ c ∈ layout.afterColon, isBlank c = true

/-- The compact layout has nothing but blanks. -/
lemma Layout.isBlank_compact : Layout.compact.IsBlank where
  gap _ _ := nofun
  afterColon _ := nofun

/-- The indented layout has nothing but blanks. -/
lemma Layout.isBlank_indented : Layout.indented.IsBlank where
  gap level c hc := by
    rw [Layout.indented, List.mem_cons, List.mem_replicate] at hc
    obtain rfl | ⟨-, rfl⟩ := hc <;> rfl
  afterColon c hc := by
    rw [Layout.indented, List.mem_singleton] at hc
    subst hc
    rfl

/-- No number goes on with blanks, when it does not go on with what follows them. -/
lemma stops_blanks {bs : List Char} (h : ∀ b ∈ bs, isBlank b = true) (hc : goesOn c = false) :
    Lexing.Stops goesOn (bs ++ c :: rest) := by
  cases bs with
  | nil => exact Lexing.stops_cons hc rest
  | cons b bs => exact Lexing.stops_cons (goesOn_eq_false_of_isBlank (h b List.mem_cons_self)) _

section Values

variable {layout : Layout}

/-- What follows the first item: the other items, each after a comma, and the end. No number goes on
there. -/
lemma writes_otherItems (hl : layout.IsBlank) {close : Char} {e : Token} (hclose : IsMark close e)
    (level : ℕ) {items : List (List Char)} {runs : List (List Token)}
    (h : List.Forall₂ Writes items runs) :
    Writes
        (items.flatMap (fun i => ',' :: (layout.gap (level + 1) ++ i)) ++
          (layout.gap level ++ [close]))
        (runs.flatMap (.comma :: ·) ++ [e]) ∧
      ∀ rest, Lexing.Stops goesOn
        (items.flatMap (fun i => ',' :: (layout.gap (level + 1) ++ i)) ++
          (layout.gap level ++ [close]) ++ rest) := by
  induction h with
  | nil =>
    have hend : Writes (layout.gap level ++ [close]) [e] :=
      (Writes.nil.mark hclose).blanks (hl.gap level)
    refine ⟨hend, fun rest => ?_⟩
    rw [List.flatMap_nil, List.nil_append, List.append_assoc]
    exact stops_blanks (hl.gap level) hclose.stops
  | cons hitem hitems ih =>
    obtain ⟨hothers, hstops⟩ := ih
    refine ⟨?_, fun rest => Lexing.stops_cons rfl _⟩
    have hw := (Writes.blanks (hl.gap (level + 1)) (hitem.append hstops hothers)).mark isMark_comma
    simpa using hw

/-- Items between brackets have their tokens with commas between them. -/
lemma writes_enclosed (hl : layout.IsBlank) {«open» close : Char} {o e : Token}
    (hopen : IsMark «open» o) (hclose : IsMark close e) (level : ℕ) {items : List (List Char)}
    {runs : List (List Token)} (h : List.Forall₂ Writes items runs) :
    Writes (enclosed layout level «open» close items) (o :: (joined runs ++ [e])) := by
  cases h with
  | nil => exact (Writes.nil.mark hclose).mark hopen
  | cons hitem hitems =>
    obtain ⟨hothers, hstops⟩ := writes_otherItems hl hclose level hitems
    have hw := (Writes.blanks (hl.gap (level + 1)) (hitem.append hstops hothers)).mark hopen
    simpa [enclosed, joined] using hw

mutual

/-- A value is written with its tokens, in any layout that has nothing but blanks between tokens. -/
lemma writes_chars (hl : layout.IsBlank) : (value : Json) → (level : ℕ) →
    Writes (chars layout level value) value.tokens
  | .null, _ => writes_token rfl fun _ _ => rfl
  | .bool true, _ => writes_token rfl fun _ _ => rfl
  | .bool false, _ => writes_token rfl fun _ _ => rfl
  | .number n, _ => writes_digits n
  | .string s, _ => writes_quoted s
  | .array items, level =>
    writes_enclosed hl isMark_openBracket isMark_closeBracket level
      (writes_items hl items (level + 1))
  | .object members, level =>
    writes_enclosed hl isMark_openBrace isMark_closeBrace level
      (writes_members hl members (level + 1))

/-- Each item is written with its tokens. -/
lemma writes_items (hl : layout.IsBlank) : (items : List Json) → (level : ℕ) →
    List.Forall₂ Writes (itemsChars layout level items) (itemTokens items)
  | [], _ => .nil
  | item :: items, level => .cons (writes_chars hl item level) (writes_items hl items level)

/-- Each member is written with its name, a colon and the tokens of its value. -/
lemma writes_members (hl : layout.IsBlank) : (members : List (String × Json)) → (level : ℕ) →
    List.Forall₂ Writes (membersChars layout level members) (memberTokens members)
  | [], _ => .nil
  | (name, value) :: members, level => by
    refine .cons ?_ (writes_members hl members level)
    have hvalue := (writes_chars hl value level).blanks hl.afterColon
    exact (writes_quoted name).append (fun _ => Lexing.stops_cons rfl _) (hvalue.mark isMark_colon)

end

end Values

end Tokens

/-! ## Trees of tokens -/

/-- The tokens of a value start with one that ends no array. -/
lemma exists_tokens_eq_cons (value : Json) :
    ∃ t ts, value.tokens = t :: ts ∧ t ≠ .closeBracket := by
  cases value with
  | null | bool _ | number _ | string _ => exact ⟨_, [], rfl, nofun⟩
  | array items => exact ⟨_, _, rfl, nofun⟩
  | object members => exact ⟨_, _, rfl, nofun⟩

namespace Reading

/-- The first item of an array is read like any value. -/
lemma run_firstItem (value : Json) (stack : List Container) :
    Reading.run ⟨.array [] :: stack, .firstItem⟩ value.tokens =
      Reading.run ⟨.array [] :: stack, .value⟩ value.tokens := by
  obtain ⟨t, ts, htokens, ht⟩ := exists_tokens_eq_cons value
  rw [htokens, run_cons, run_cons]
  congr 1
  cases t with
  | closeBracket => exact absurd rfl ht
  | _ => rfl

mutual

/-- Reading the tokens of a value where a value may stand supplies its tree. -/
lemma run_value : (value : Json) → (stack : List Container) →
    Reading.run ⟨stack, .value⟩ value.tokens = some (supply value.tree stack)
  | .null, _ => rfl
  | .bool _, _ => rfl
  | .number _, _ => rfl
  | .string _, _ => rfl
  | .array [], _ => rfl
  | .array (item :: items), stack => by
    have hitem : Reading.run ⟨.array [] :: stack, .firstItem⟩ item.tokens =
        some ⟨.array [item.tree] :: stack, .separator⟩ := by
      rw [run_firstItem, run_value item]
      rfl
    have hopen : Reading.step ⟨stack, .value⟩ .openBracket =
        some ⟨.array [] :: stack, .firstItem⟩ := rfl
    rw [tokens, itemTokens, joined, run_cons, hopen, Option.bind_some, List.append_assoc,
      run_append, hitem, Option.bind_some, run_items items]
    rfl
  | .object [], _ => rfl
  | .object ((name, value) :: members), stack => by
    have hvalue : Reading.run ⟨.object [] none :: stack, .firstName⟩
        (.string (some name) :: .colon :: value.tokens) =
          some ⟨.object [(some name, value.tree)] none :: stack, .separator⟩ :=
      run_value value (.object [] (some name) :: stack)
    have hopen : Reading.step ⟨stack, .value⟩ .openBrace =
        some ⟨.object [] none :: stack, .firstName⟩ := rfl
    rw [tokens, memberTokens, joined, run_cons, hopen, Option.bind_some, List.append_assoc,
      run_append, hvalue, Option.bind_some, run_members members]
    rfl

/-- Reading further items, each after a comma, and the end of their array supplies the array. -/
lemma run_items :
    (items : List Json) → (done : List Tree) → (stack : List Container) →
    Reading.run ⟨.array done :: stack, .separator⟩
      ((itemTokens items).flatMap (.comma :: ·) ++ [.closeBracket]) =
      some (supply (.array (done.reverse ++ itemTrees items)) stack)
  | [], done, stack => by
    rw [itemTrees, List.append_nil]
    rfl
  | item :: items, done, stack => by
    have hitem : Reading.run ⟨.array done :: stack, .separator⟩ (.comma :: item.tokens) =
        some ⟨.array (item.tree :: done) :: stack, .separator⟩ :=
          run_value item (.array done :: stack)
    rw [itemTokens, List.flatMap_cons, List.append_assoc, run_append, hitem, Option.bind_some,
      run_items items, itemTrees, List.reverse_cons, List.append_assoc]
    rfl

/-- Reading further members, each after a comma, and the end of their object supplies the object. -/
lemma run_members : (members : List (String × Json)) → (done : List (Option String × Tree)) →
    (stack : List Container) →
    Reading.run ⟨.object done none :: stack, .separator⟩
        ((memberTokens members).flatMap (.comma :: ·) ++ [.closeBrace]) =
      some (supply (.object (done.reverse ++ memberTrees members)) stack)
  | [], done, stack => by
    rw [memberTrees, List.append_nil]
    rfl
  | (name, value) :: members, done, stack => by
    have hvalue : Reading.run ⟨.object done none :: stack, .separator⟩
        (.comma :: .string (some name) :: .colon :: value.tokens) =
          some ⟨.object ((some name, value.tree) :: done) none :: stack, .separator⟩ :=
      run_value value (.object done (some name) :: stack)
    rw [memberTokens, List.flatMap_cons, List.append_assoc, run_append, hvalue, Option.bind_some,
      run_members members, memberTrees, List.reverse_cons, List.append_assoc]
    rfl

end

end Reading

namespace Tree

/-- The tokens of a value are read as its tree. -/
lemma ofTokens?_tokens (value : Json) : ofTokens? value.tokens = some value.tree := by
  rw [ofTokens?, Reading.start, Reading.run_value]
  rfl

/-- A value that is written in a layout with nothing but blanks between tokens is read as its
tree. -/
theorem ofText?_chars {layout : Layout} (hl : layout.IsBlank) (level : ℕ) (value : Json) :
    ofText? (String.ofList (chars layout level value)) = some value.tree := by
  have hnil : Token.all? [] = some [] := by rw [Token.all?]; rfl
  rw [ofText?, String.toList_ofList, (writes_chars hl value level).all hnil, Option.bind_some,
    ofTokens?_tokens]

/-- A value that is written without blanks is read as its tree. -/
theorem ofText?_compact (value : Json) : ofText? value.compact = some value.tree :=
  ofText?_chars Layout.isBlank_compact 0 value

/-- A value that is written indented is read as its tree. -/
theorem ofText?_pretty (value : Json) : ofText? value.pretty = some value.tree :=
  ofText?_chars Layout.isBlank_indented 0 value

end Tree

end ModelSchema.Json
