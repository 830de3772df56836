import ModelSchema.Proofs.Scripts

set_option autoImplicit false

/-!
# The grammar of written types

A written type is cut into tokens, between which spaces and line breaks do not count. The grammar of
types is given by its syntax trees and by the tokens that each of them spells:

* type: postfixes with bars between them
* postfix: a primary, followed by any number of bracket pairs
* primary: a word, a decimal number, a quoted text, a type in parentheses, or a block
* block: members in braces, each a name, possibly a question mark, a colon, a type and a semicolon

## Main definitions

* `TypeScript.TypeToken.lexicon`, `TypeScript.TypeToken.all?` — the tokens of a text.
* `TypeScript.TypeSyntax`, `TypeScript.PostfixSyntax`, `TypeScript.PrimarySyntax`,
  `TypeScript.BlockSyntax` — the syntax trees.
* `TypeScript.TypeSyntax.Spells` — a text is a spelling of a syntax tree.

## Main results

* `TypeScript.TypeSyntax.eq_of_spells` — a text is a spelling of one syntax tree at most.
-/

namespace ModelSchema.TypeScript

/-! ## Tokens -/

/-- A token of a written type. -/
inductive TypeToken where
  | word (letters : List Char)
  | number (value : Nat)
  /-- A text between single quotes, without its escapes. -/
  | quoted (text : List Char)
  | mark (c : Char)
  deriving DecidableEq, Repr

namespace TypeToken

/-- The marks, each of which is a token. -/
def isMark (c : Char) : Bool :=
  ['{', '}', '[', ']', '(', ')', '|', '?', ':', ';'].contains c

/-- A quoted text whose opening quote has been read, and what follows its closing quote, which is
the first one that no backslash escapes. -/
def readQuoted? : List Char → Option (List Char × List Char)
  | [] => none
  | '\'' :: cs => some ([], cs)
  | '\\' :: c :: cs => (readQuoted? cs).map fun r => (c :: r.1, r.2)
  | c :: cs => (readQuoted? cs).map fun r => (c :: r.1, r.2)

/-- At least the closing quote is read. -/
lemma length_lt_of_readQuoted? {cs : List Char} {r : List Char × List Char}
    (h : readQuoted? cs = some r) : r.2.length < cs.length := by
  fun_induction readQuoted? cs generalizing r with
  | case1 => cases h
  | case2 cs => cases h; simp
  | case3 c cs ih =>
    obtain ⟨r, hr, rfl⟩ := Option.map_eq_some_iff.1 h
    have := ih hr
    simp only [List.length_cons]
    omega
  | case4 c cs _ _ ih =>
    obtain ⟨r, hr, rfl⟩ := Option.map_eq_some_iff.1 h
    have := ih hr
    simp only [List.length_cons]
    omega

/-- The tokens of written types: the value of a number, and a quoted text without its escapes. -/
def lexicon : Lexicon TypeToken where
  isMark := isMark
  mark := .mark
  word := .word
  number digits := .number (Nat.ofDigitChars 10 digits 0)
  literal? cs := (readQuoted? cs).map fun r => (.quoted r.1, r.2)
  mark_apart h := by
    simp only [isMark, List.contains_eq_mem, decide_eq_true_eq, List.mem_cons, List.not_mem_nil,
      or_false] at h
    rcases h with rfl | rfl | rfl | rfl | rfl | rfl | rfl | rfl | rfl | rfl <;> decide
  length_lt h := by
    obtain ⟨r, hr, rfl⟩ := Option.map_eq_some_iff.1 h
    exact length_lt_of_readQuoted? hr

/-- The tokens of a text. -/
def all? (cs : List Char) : Option (List TypeToken) :=
  lexicon.all? cs

end TypeToken

/-! ## Syntax trees -/

/-- The words that are types. -/
inductive TypeWord where
  | string
  | number
  | boolean
  | any
  | object
  | null
  | true
  | false
  deriving DecidableEq, Repr

/-- The letters of a word. -/
def TypeWord.letters : TypeWord → List Char
  | .string => "string".toList
  | .number => "number".toList
  | .boolean => "boolean".toList
  | .any => "any".toList
  | .object => "object".toList
  | .null => "null".toList
  | .true => "true".toList
  | .false => "false".toList

/-- Words with the same letters are the same. -/
lemma TypeWord.letters_injective {a b : TypeWord} (h : a.letters = b.letters) : a = b := by
  cases a <;> cases b <;> first | rfl | exact absurd h (by decide)

mutual

/-- A type: one postfix or several ones. -/
inductive TypeSyntax where
  | one (alternative : PostfixSyntax)
  | more (first : PostfixSyntax) (others : TypeSyntax)

/-- A primary with a number of bracket pairs. -/
inductive PostfixSyntax where
  | mk (primary : PrimarySyntax) (brackets : Nat)

/-- A primary. -/
inductive PrimarySyntax where
  | word (word : TypeWord)
  | number (value : Nat)
  | quoted (text : List Char)
  | parens (type : TypeSyntax)
  | block (members : BlockSyntax)

/-- The members of a block. -/
inductive BlockSyntax where
  | nil
  | cons (name : List Char) (isOptional : Bool) (type : TypeSyntax) (others : BlockSyntax)

end

/-- Pairs of brackets. -/
def bracketTokens : Nat → List TypeToken
  | 0 => []
  | n + 1 => .mark '[' :: .mark ']' :: bracketTokens n

mutual

/-- The tokens of a type. -/
def TypeSyntax.tokens : TypeSyntax → List TypeToken
  | .one p => p.tokens
  | .more p others => p.tokens ++ .mark '|' :: others.tokens

/-- The tokens of a postfix. -/
def PostfixSyntax.tokens : PostfixSyntax → List TypeToken
  | .mk primary brackets => primary.tokens ++ bracketTokens brackets

/-- The tokens of a primary. -/
def PrimarySyntax.tokens : PrimarySyntax → List TypeToken
  | .word word => [.word word.letters]
  | .number value => [.number value]
  | .quoted text => [.quoted text]
  | .parens type => .mark '(' :: (type.tokens ++ [.mark ')'])
  | .block members => .mark '{' :: (members.tokens ++ [.mark '}'])

/-- The tokens of the members of a block. -/
def BlockSyntax.tokens : BlockSyntax → List TypeToken
  | .nil => []
  | .cons name isOptional type others =>
    .word name :: ((if isOptional then [.mark '?'] else []) ++
      .mark ':' :: (type.tokens ++ .mark ';' :: others.tokens))

end

/-- A text is a spelling of a syntax tree: its tokens are those of the tree. -/
def TypeSyntax.Spells (text : String) (type : TypeSyntax) : Prop :=
  TypeToken.all? text.toList = some type.tokens

/-! ## Unique readability

What follows a type has to be such that the type cannot go on: then the tokens tell where it ends,
and which type it is. A primary and a block always tell. -/

/-- No bracket follows. -/
def NoBracket (rest : List TypeToken) : Prop :=
  rest.head? ≠ some (.mark '[')

/-- Neither a bracket nor a bar follows. -/
def NoType (rest : List TypeToken) : Prop :=
  NoBracket rest ∧ rest.head? ≠ some (.mark '|')

/-- No bracket follows where another mark does. -/
lemma noBracket_mark {c : Char} (h : c ≠ '[') (rest : List TypeToken) :
    NoBracket (.mark c :: rest) := by
  simpa [NoBracket] using h

/-- No type goes on where a mark other than a bracket and a bar follows. -/
lemma noType_mark {c : Char} (h : c ≠ '[') (h' : c ≠ '|') (rest : List TypeToken) :
    NoType (.mark c :: rest) :=
  ⟨noBracket_mark h rest, by simpa using h'⟩

/-- No type goes on at the end. -/
lemma noType_nil : NoType [] :=
  ⟨by simp [NoBracket], by simp⟩

/-- Brackets that nothing goes on with are counted in one way. -/
lemma bracketTokens_unique {n m : Nat} {rest rest' : List TypeToken} (h : NoBracket rest)
    (h' : NoBracket rest') (heq : bracketTokens n ++ rest = bracketTokens m ++ rest') :
    n = m ∧ rest = rest' := by
  induction n generalizing m with
  | zero =>
    cases m with
    | zero => exact ⟨rfl, heq⟩
    | succ m =>
      obtain rfl : rest = _ := heq
      exact absurd rfl h
  | succ n ih =>
    cases m with
    | zero =>
      obtain rfl : _ = rest' := heq
      exact absurd rfl h'
    | succ m =>
      obtain ⟨rfl, hrest⟩ := ih (m := m) (by simpa [bracketTokens] using heq)
      exact ⟨rfl, hrest⟩

mutual

/-- The tokens of a type after which it cannot go on tell which type it is. -/
lemma TypeSyntax.unique :
    (t u : TypeSyntax) → {rest rest' : List TypeToken} → NoType rest → NoType rest' →
    t.tokens ++ rest = u.tokens ++ rest' → t = u ∧ rest = rest'
  | .one p, .one q, rest, rest', h, h', heq => by
    obtain ⟨rfl, hrest⟩ := p.unique q h.1 h'.1 heq
    exact ⟨rfl, hrest⟩
  | .one p, .more q u, rest, rest', h, h', heq => by
    rw [TypeSyntax.tokens, TypeSyntax.tokens, List.append_assoc] at heq
    obtain ⟨-, hrest⟩ := p.unique q h.1 (noBracket_mark (by decide) _) heq
    rw [hrest] at h
    exact absurd rfl h.2
  | .more p t, .one q, rest, rest', h, h', heq => by
    rw [TypeSyntax.tokens, TypeSyntax.tokens, List.append_assoc] at heq
    obtain ⟨-, hrest⟩ := p.unique q (noBracket_mark (by decide) _) h'.1 heq
    rw [← hrest] at h'
    exact absurd rfl h'.2
  | .more p t, .more q u, rest, rest', h, h', heq => by
    rw [TypeSyntax.tokens, TypeSyntax.tokens, List.append_assoc, List.append_assoc] at heq
    obtain ⟨rfl, hbar⟩ :=
      p.unique q (noBracket_mark (by decide) _) (noBracket_mark (by decide) _) heq
    obtain ⟨rfl, hrest⟩ := t.unique u h h' (List.cons.inj hbar).2
    exact ⟨rfl, hrest⟩

/-- The tokens of a postfix after which no bracket follows tell which postfix it is. -/
lemma PostfixSyntax.unique :
    (p q : PostfixSyntax) → {rest rest' : List TypeToken} → NoBracket rest → NoBracket rest' →
    p.tokens ++ rest = q.tokens ++ rest' → p = q ∧ rest = rest'
  | .mk a n, .mk b m, rest, rest', h, h', heq => by
    rw [PostfixSyntax.tokens, PostfixSyntax.tokens, List.append_assoc, List.append_assoc] at heq
    obtain ⟨rfl, hbrackets⟩ := a.unique b heq
    obtain ⟨rfl, hrest⟩ := bracketTokens_unique h h' hbrackets
    exact ⟨rfl, hrest⟩

/-- The tokens of a primary tell which primary it is. -/
lemma PrimarySyntax.unique : (a b : PrimarySyntax) → {rest rest' : List TypeToken} →
    a.tokens ++ rest = b.tokens ++ rest' → a = b ∧ rest = rest'
  | .word v, b, rest, rest', heq => by
    cases b <;> simp only [PrimarySyntax.tokens, List.cons_append, List.nil_append, List.cons.injEq,
      reduceCtorEq, TypeToken.word.injEq, false_and] at heq
    exact ⟨by rw [TypeWord.letters_injective heq.1], heq.2⟩
  | .number v, b, rest, rest', heq => by
    cases b <;> simp only [PrimarySyntax.tokens, List.cons_append, List.nil_append, List.cons.injEq,
      reduceCtorEq, TypeToken.number.injEq, false_and] at heq
    exact ⟨by rw [heq.1], heq.2⟩
  | .quoted v, b, rest, rest', heq => by
    cases b <;> simp only [PrimarySyntax.tokens, List.cons_append, List.nil_append, List.cons.injEq,
      reduceCtorEq, TypeToken.quoted.injEq, false_and] at heq
    exact ⟨by rw [heq.1], heq.2⟩
  | .parens t, b, rest, rest', heq => by
    cases b with
    | parens u =>
      rw [PrimarySyntax.tokens, PrimarySyntax.tokens, List.cons_append, List.cons_append,
        List.append_assoc, List.append_assoc] at heq
      have hstop := noType_mark (c := ')') (by decide) (by decide)
      obtain ⟨rfl, hrest⟩ := t.unique u (hstop _) (hstop _) (List.cons.inj heq).2
      exact ⟨rfl, (List.cons.inj hrest).2⟩
    | _ => simp [PrimarySyntax.tokens] at heq
  | .block ms, b, rest, rest', heq => by
    cases b with
    | block ns =>
      rw [PrimarySyntax.tokens, PrimarySyntax.tokens, List.cons_append, List.cons_append,
        List.append_assoc, List.append_assoc] at heq
      obtain ⟨rfl, hrest⟩ := ms.unique ns (List.cons.inj heq).2
      exact ⟨rfl, hrest⟩
    | _ => simp [PrimarySyntax.tokens] at heq

/-- The tokens of members before a closing brace tell which members they are. -/
lemma BlockSyntax.unique : (ms ns : BlockSyntax) → {rest rest' : List TypeToken} →
    ms.tokens ++ .mark '}' :: rest = ns.tokens ++ .mark '}' :: rest' → ms = ns ∧ rest = rest'
  | .nil, .nil, rest, rest', heq => ⟨rfl, (List.cons.inj heq).2⟩
  | .nil, .cons .., rest, rest', heq => by simp [BlockSyntax.tokens] at heq
  | .cons .., .nil, rest, rest', heq => by simp [BlockSyntax.tokens] at heq
  | .cons name isOptional t ms, .cons name' isOptional' u ns, rest, rest', heq => by
    simp only [BlockSyntax.tokens, List.cons_append, List.append_assoc, List.cons.injEq,
      TypeToken.word.injEq] at heq
    obtain ⟨rfl, heq⟩ := heq
    have htypes : isOptional = isOptional' ∧
        t.tokens ++ .mark ';' :: (ms.tokens ++ .mark '}' :: rest) =
          u.tokens ++ .mark ';' :: (ns.tokens ++ .mark '}' :: rest') := by
      cases isOptional with
      | false =>
        cases isOptional' with
        | false => exact ⟨rfl, by simpa using heq⟩
        | true => simp at heq
      | true =>
        cases isOptional' with
        | false => simp at heq
        | true => exact ⟨rfl, by simpa using heq⟩
    obtain ⟨rfl, htypes⟩ := htypes
    have hstop := noType_mark (c := ';') (by decide) (by decide)
    obtain ⟨rfl, hothers⟩ := t.unique u (hstop _) (hstop _) htypes
    obtain ⟨rfl, hrest⟩ := ms.unique ns (List.cons.inj hothers).2
    exact ⟨rfl, hrest⟩

end

/-- A text is a spelling of one syntax tree at most: the grammar is not ambiguous. -/
theorem TypeSyntax.eq_of_spells {text : String} {t u : TypeSyntax} (ht : t.Spells text)
    (hu : u.Spells text) : t = u := by
  have heq : t.tokens = u.tokens := Option.some.inj (ht.symm.trans hu)
  exact (t.unique u noType_nil noType_nil (congrArg (· ++ []) heq)).1

end ModelSchema.TypeScript
