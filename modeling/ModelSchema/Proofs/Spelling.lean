import ModelSchema.Proofs.Tiling

set_option autoImplicit false

/-!
# Literals are read as they are spelled

The arguments of a decorator can be written from literals: each is spelled out, with commas between
them and blanks where they are wanted. A document that is written so has these literals as arguments
again.

## Main definitions

* `Token.Closed` — characters that have tokens, whatever follows them.
* `Field.Declares` — characters that declare fields, whatever follows them.
* `SpacedLiteral` — a literal that can be written, with blanks around it.
* `SpacedLiteral.fieldText` — the declaration of a field whose decorator has given arguments.

## Main results

* `Token.IsLexical.isWritten` — every token that a text can have is written.
* `Token.Closed.append` — characters after others have their tokens after those of the others.
* `SpacedLiteral.exists_separated` — literals with commas between them are arguments.
* `SpacedLiteral.spellings_are_read` — literals are read as they are spelled.
-/

namespace ModelSchema

open Grammar Lexing Outcome

/-! ## Characters with tokens of their own -/

namespace Token

variable {position : Position} {cs ds : List Char} {ts us : List Token} {t : Token}

/-- Digits with a value below `2 ^ 64` spell a word. -/
lemma readWord?_ne_none {digits : List Char} (hne : digits ≠ [])
    (hdigits : ∀ c ∈ digits, c.isDigit = true) (hvalue : Nat.ofDigitChars 10 digits 0 < 2 ^ 64) :
    Text.readWord? digits ≠ none := by
  have hword : Text.digitsWord? digits ≠ none := by
    rw [Text.digitsWord?, if_pos ⟨hne, List.all_eq_true.2 hdigits, hvalue⟩]
    exact Option.some_ne_none _
  unfold Text.readWord?
  split
  · exact absurd (hdigits '+' List.mem_cons_self) (by decide)
  · exact hword

/-- Every token that a text can have is written. -/
theorem IsLexical.isWritten (h : t.IsLexical) : t.IsWritten := by
  -- but for numbers, the token of a piece is always there
  have valued {kind : TokenKind} {text : String}
      (hvalue : ¬ (kind = .number ∧ Text.readWord? text.toList = none)) (position : Position) :
      (Piece.token kind text.toList).token? position = .ok (some ⟨kind, text, position⟩) := by
    rw [Piece.token?, if_neg hvalue, String.ofList_toList]
  cases h with
  | model =>
    refine ⟨?_, valued (by rintro ⟨⟨⟩, -⟩)⟩
    have htext : "model".toList = ['m', 'o', 'd', 'e', 'l'] := rfl
    dsimp only
    rw [htext]
    exact @Piece.WellFormed.word 'm' ['o', 'd', 'e', 'l'] rfl (List.all_eq_true.1 rfl)
  | @identifier text _ word other =>
    refine ⟨?_, valued (by rintro ⟨⟨⟩, -⟩)⟩
    obtain ⟨c, part, htext, first, others⟩ := word
    have hkind : Piece.wordKind (c :: part) = .identifier := by
      refine if_neg fun hmodel => other ?_
      rw [← String.ofList_toList (s := text), htext, hmodel]
    dsimp only
    rw [htext, ← hkind]
    exact .word first others
  | string inside =>
    refine ⟨.string fun d hd => bne_iff_ne.2 fun he => inside (he ▸ hd), valued (by rintro ⟨⟨⟩, -⟩)⟩
  | @number text _ nonempty digits value =>
    have hne : text.toList ≠ [] := fun he => nonempty (String.toList_eq_nil_iff.1 he)
    refine ⟨?_, valued fun h => readWord?_ne_none hne digits value h.2⟩
    obtain ⟨c, cs, hcs⟩ := List.exists_cons_of_ne_nil hne
    rw [hcs, List.forall_mem_cons] at digits
    dsimp only
    rw [hcs]
    exact .number digits.1 digits.2
  | @mark c kind _ marks =>
    refine ⟨?_, valued ?_⟩
    · dsimp only
      rw [String.toList_ofList]
      exact .mark marks
    · rintro ⟨rfl, -⟩
      unfold TokenKind.ofMark? at marks
      split at marks <;> cases marks

/-- Characters at a position have tokens, whatever follows them. -/
def Closed (position : Position) (cs : List Char) (ts : List Token) : Prop :=
  ∀ rest, readFrom position (cs ++ rest) = (ts ++ ·) <$> readFrom (position.advance cs) rest

namespace Closed

/-- Nothing spells no tokens. -/
lemma nil : Closed position [] [] :=
  fun rest => (id_map (readFrom position rest)).symm

/-- Characters after others have their tokens after those of the others. -/
theorem append (h : Closed position cs ts) (h' : Closed (position.advance cs) ds us) :
    Closed position (cs ++ ds) (ts ++ us) := by
  intro rest
  rw [List.append_assoc, h, h', Position.advance_append]
  cases readFrom ((position.advance cs).advance ds) rest with
  | error e => rfl
  | ok vs => exact congrArg Except.ok (List.append_assoc ..).symm

/-- Blanks have no tokens. -/
lemma blanks (h : ∀ c ∈ cs, Text.isBlank c = true) : Closed position cs [] :=
  fun rest => (readFrom_blanks h rest).trans (id_map (readFrom (position.advance cs) rest)).symm

/-- A token in front of characters in which no word goes on. -/
lemma cons (ht : t.IsLexical) (here : t.position = position)
    (stops : ∀ rest, Stops Piece.isWordPart (cs ++ rest))
    (h : Closed (position.advance t.spelling) cs ts) :
    Closed position (t.spelling ++ cs) (t :: ts) := by
  subst here
  intro rest
  rw [List.append_assoc, readFrom_spelling ht.isWritten (stops rest), h, Position.advance_append]
  cases readFrom ((t.position.advance t.spelling).advance cs) rest <;> rfl

/-- A word in front of characters in which no word goes on. -/
lemma word {text : String} (htext : IsIdentifier text) (hother : text ≠ "model")
    (stops : ∀ rest, Stops Piece.isWordPart (cs ++ rest))
    (h : Closed (position.advance text.toList) cs ts) :
    Closed position (text.toList ++ cs) (⟨.identifier, text, position⟩ :: ts) :=
  cons (.identifier htext hother) rfl stops h

/-- A blank in front. -/
lemma blank {c : Char} (hc : Text.isBlank c = true) (h : Closed (position.next c) cs ts) :
    Closed position (c :: cs) ts := by
  have hblank : Closed position [c] [] := blanks (by simpa using hc)
  exact hblank.append h

/-- A mark in front. -/
lemma mark {c : Char} {kind : TokenKind} (hc : TokenKind.ofMark? c = some kind)
    (h : Closed (position.next c) cs ts) :
    Closed position (c :: cs) (⟨kind, String.ofList [c], position⟩ :: ts) := by
  change Closed position ([c] ++ cs) ([⟨kind, String.ofList [c], position⟩] ++ ts)
  refine append (fun rest => ?_) h
  have hwritten : IsWritten ⟨kind, String.ofList [c], position⟩ := (IsLexical.mark hc).isWritten
  have hread : Piece.read? (c :: rest) = some (.token kind [c], rest) := by
    have hspelling := @Piece.WellFormed.read? rest _ hwritten.form
    rw [String.toList_ofList, Piece.spelling_token_of_ne (Piece.ofMark?_ne_string hc),
      Piece.goesOn_mark hc]
      at hspelling
    exact hspelling fun _ _ => rfl
  have hvalued := hwritten.valued position
  rw [String.toList_ofList] at hvalued
  rw [List.singleton_append, readFrom_of_token hread hvalued,
    Piece.spelling_token_of_ne (Piece.ofMark?_ne_string hc)]
  rfl

end Closed

end Token

/-- Characters of words, the first of which may start one, are an identifier. -/
lemma isIdentifier_ofList (c : Char) (cs : List Char) (first : Piece.isWordStart c = true)
    (others : cs.all Piece.isWordPart = true) : IsIdentifier (String.ofList (c :: cs)) :=
  ⟨c, cs, String.toList_ofList, first, List.all_eq_true.1 others⟩

/-! ## Literals -/

/-- One more phrase of a list with marks between, in front. -/
lemma Grammar.Separated.cons {α : Type} {mark : TokenKind} {P : Token → α → Prop} {t m : Token}
    {ts : List Token} {a : α} {as : List α} (first : P t a) (between : m.kind = mark)
    (rest : Separated mark P ts as) : Separated mark P (t :: m :: ts) (a :: as) := by
  induction rest with
  | one last => exact .snoc (.one first) between last
  | snoc _ between' last ih => exact .snoc ih between' last

/-- A single phrase. -/
lemma Grammar.Many.single {α : Type} {P : List Token → α → Prop} {ts : List Token} {a : α}
    (h : P ts a) : Many P ts [a] := by
  simpa using Many.cons h .nil

namespace Literal

/-- A literal that can be written: a string has no double quote. -/
def IsWritable (literal : Literal) : Prop :=
  ∀ text, literal = .string text → '"' ∉ text.toList

/-- The token of a literal at a position. -/
def token (position : Position) : Literal → Token
  | .null => ⟨.identifier, "null", position⟩
  | .bool true => ⟨.identifier, "true", position⟩
  | .bool false => ⟨.identifier, "false", position⟩
  | .number n => ⟨.number, String.ofList (Text.wordChars n), position⟩
  | .string text => ⟨.string, text, position⟩

variable {literal : Literal} {position : Position}

/-- The token of a literal is spelled like the literal. -/
lemma spelling_token (literal : Literal) (position : Position) :
    (literal.token position).spelling = literal.spelling := by
  cases literal with
  | null => exact (rfl : "null".toList = ['n', 'u', 'l', 'l'])
  | bool value =>
    cases value with
    | true => exact (rfl : "true".toList = ['t', 'r', 'u', 'e'])
    | false => exact (rfl : "false".toList = ['f', 'a', 'l', 's', 'e'])
  | number n => exact String.toList_ofList
  | string text => rfl

/-- The token of a literal stands where it is put. -/
lemma position_token (literal : Literal) (position : Position) :
    (literal.token position).position = position := by
  cases literal with
  | bool value => cases value <;> rfl
  | _ => rfl

/-- The token of a literal that can be written can be read. -/
lemma isLexical_token (h : literal.IsWritable) : (literal.token position).IsLexical := by
  cases literal with
  | null => exact .identifier (isIdentifier_ofList 'n' ['u', 'l', 'l'] rfl rfl) (by decide)
  | bool value =>
    cases value with
    | true => exact .identifier (isIdentifier_ofList 't' ['r', 'u', 'e'] rfl rfl) (by decide)
    | false => exact .identifier (isIdentifier_ofList 'f' ['a', 'l', 's', 'e'] rfl rfl) (by decide)
  | number n =>
    have hne : Text.wordChars n ≠ [] := Nat.toDigits_ne_nil
    have hdigits : ∀ c ∈ Text.wordChars n, c.isDigit = true :=
      fun c hc => Nat.isDigit_of_mem_toDigits (by decide) (by decide) hc
    have hvalue : Nat.ofDigitChars 10 (Text.wordChars n) 0 = n.toNat :=
      Nat.ofDigitChars_ten_toDigits
    refine .number (fun he => hne ?_) ?_ ?_
    · rw [← String.toList_ofList (l := Text.wordChars n), he]
      rfl
    · rwa [String.toList_ofList]
    · rw [String.toList_ofList, hvalue]
      exact n.toNat_lt
  | string text => exact .string (h text rfl)

/-- A literal is derived from its token. -/
lemma derives_token (literal : Literal) (position : Position) :
    Literal.Derives (literal.token position) literal := by
  cases literal with
  | null => exact .null rfl rfl
  | bool value =>
    cases value with
    | true => exact .yes rfl rfl
    | false => exact .no rfl rfl
  | number n =>
    refine .number rfl ?_
    rw [token, String.toList_ofList]
    exact Text.readWord?_wordChars n
  | string text => exact .string rfl

end Literal

/-! ## Arguments -/

/-- A literal that can be written, with any number of blanks before and after it. -/
structure SpacedLiteral where
  literal : Literal
  before : List Char
  after : List Char
  before_blank : ∀ c ∈ before, Text.isBlank c = true
  after_blank : ∀ c ∈ after, Text.isBlank c = true
  writable : literal.IsWritable

namespace SpacedLiteral

variable {argument : SpacedLiteral} {arguments : List SpacedLiteral} {position : Position}
    {ds : List Char} {us : List Token}

/-- The characters of a literal with blanks around it. -/
def chars (argument : SpacedLiteral) : List Char :=
  argument.before ++ (argument.literal.spelling ++ argument.after)

/-- The characters of literals with commas between them. -/
def listChars (arguments : List SpacedLiteral) : List Char :=
  [','].intercalate (arguments.map chars)

/-- No word goes on with blanks, nor with what stops it behind them. -/
lemma stops_blanks {cs : List Char} (h : ∀ c ∈ cs, Text.isBlank c = true)
    (hds : Stops Piece.isWordPart ds) : Stops Piece.isWordPart (cs ++ ds) := by
  cases cs with
  | nil => exact hds
  | cons c cs => exact stops_cons (Piece.isWordPart_eq_false_of_isBlank (h c List.mem_cons_self)) _

/-- A literal with blanks around it is one token, when no word goes on after it. -/
lemma closed_chars (argument : SpacedLiteral) (stops : ∀ rest, Stops Piece.isWordPart (ds ++ rest))
    (h : Token.Closed (position.advance argument.chars) ds us) :
    Token.Closed position (argument.chars ++ ds)
      (argument.literal.token (position.advance argument.before) :: us) := by
  have hrest : Token.Closed ((position.advance argument.before).advance argument.literal.spelling)
      (argument.after ++ ds) us := by
    rw [chars, Position.advance_append, Position.advance_append] at h
    exact (Token.Closed.blanks argument.after_blank).append h
  have hstops (rest : List Char) : Stops Piece.isWordPart (argument.after ++ ds ++ rest) := by
    rw [List.append_assoc]
    exact stops_blanks argument.after_blank (stops rest)
  have hliteral := Token.Closed.cons (argument.literal.isLexical_token argument.writable)
    (argument.literal.position_token (position.advance argument.before)) hstops
      (by rwa [Literal.spelling_token])
  rw [Literal.spelling_token] at hliteral
  rw [chars, List.append_assoc, List.append_assoc]
  exact (Token.Closed.blanks argument.before_blank).append hliteral

/-- A comma stands between an argument and the next one. -/
lemma listChars_cons_cons (first second : SpacedLiteral) (arguments : List SpacedLiteral) :
    listChars (first :: second :: arguments) =
      first.chars ++ ',' :: listChars (second :: arguments) := by
  simp [listChars, List.intercalate]

/-- Literals with commas between them are arguments, when no word goes on after them.

**Proof sketch.** Induction on the literals. No word goes on with a comma. -/
theorem exists_separated (hne : arguments ≠ []) (position : Position) :
    ∃ ts, Separated .comma Literal.Derives ts (arguments.map literal) ∧
      ∀ ds us, (∀ rest, Stops Piece.isWordPart (ds ++ rest)) →
        Token.Closed (position.advance (listChars arguments)) ds us →
          Token.Closed position (listChars arguments ++ ds) (ts ++ us) := by
  induction arguments generalizing position with
  | nil => exact absurd rfl hne
  | cons first others ih =>
    have hfirst := first.literal.derives_token (position.advance first.before)
    cases others with
    | nil =>
      have hsingle : listChars [first] = first.chars := by simp [listChars, List.intercalate]
      refine ⟨_, .one hfirst, fun ds us stops h => ?_⟩
      rw [hsingle] at h ⊢
      exact first.closed_chars stops h
    | cons second others =>
      generalize hcomma : (position.advance first.chars).next ',' = next
      obtain ⟨ts, hts, hclosed⟩ := ih (List.cons_ne_nil _ _) next
      have hcons :=
        Separated.cons (m := ⟨.comma, String.ofList [','], position.advance first.chars⟩)
          hfirst rfl hts
      refine ⟨_, hcons, fun ds us stops h => ?_⟩
      rw [listChars_cons_cons, Position.advance_append, Position.advance_cons, hcomma] at h
      have hrest := hclosed ds us stops h
      rw [listChars_cons_cons, List.append_assoc]
      exact first.closed_chars (fun rest => stops_cons (by decide) _) (.mark rfl (by rwa [hcomma]))

end SpacedLiteral

/-! ## Fields and models -/

/-- Characters at a position declare fields, whatever follows them. -/
def Field.Declares (position : Position) (cs : List Char) (fields : List Field) : Prop :=
  ∃ ts, Token.Closed position cs ts ∧ Many Field.Derives ts fields

/-- A field with a type of one word and a decorator. -/
lemma Field.derives_decorated {name colon type sign word stop : Token} {base : BaseType}
    {ts : List Token} {arguments : List Literal} (hname : name.kind = .identifier)
    (hcolon : colon.kind = .colon) (htype : type.kind = .identifier)
    (hbase : BaseType.ofName type.text = base) (hsign : sign.kind = .atSign)
    (hword : word.kind = .identifier) (h : Arguments ts arguments)
    (hstop : stop.kind = .semicolon) :
    Field.Derives (name :: colon :: type :: sign :: word :: (ts ++ [stop]))
      ⟨name.text, name.position, { base }, [⟨word.text, arguments, sign.position⟩], false⟩ := by
  rw [← hbase]
  have hdecorated := Many.single (Decorator.Derives.mk hsign hword h)
  exact .mk (.mk hname .absent hcolon (.named htype .absent .absent) hdecorated) hstop

/-- A text whose tokens declare models. -/
lemma Model.ofText_of_closed {text : String} {ts : List Token} {models : List Model}
    (h : Token.Closed .start text.toList ts) (hmodels : Document ts models) :
    ofText text = .ok models := by
  have htokens := h []
  rw [List.append_nil, Token.readFrom_nil] at htokens
  obtain ⟨ts', heq, hwritten⟩ := Token.exists_of_readFrom htokens
  obtain rfl := (List.append_inj' heq rfl).1
  have hinside : ∀ t ∈ ts, t.kind ≠ .endOfInput := fun t ht => (hwritten t ht).kind_ne_endOfInput
  rw [ofText, Token.ofText_eq_readFrom, htokens]
  change ofTokens (ts ++ [_]) = _
  rw [ofTokens_concat hinside rfl, Prefix.run_eq_ok_iff.2 hmodels]
  rfl

/-- Fields after others declare what both declare. -/
lemma Field.Declares.append {position : Position} {cs ds : List Char} {fields others : List Field}
    (h : Declares position cs fields) (h' : Declares (position.advance cs) ds others) :
    Declares position (cs ++ ds) (fields ++ others) := by
  obtain ⟨ts, hclosed, hfields⟩ := h
  obtain ⟨us, hclosed', hothers⟩ := h'
  refine ⟨ts ++ us, hclosed.append hclosed', ?_⟩
  clear hclosed hclosed'
  induction hfields with
  | nil => exact hothers
  | cons first _ ih =>
    rw [List.append_assoc]
    exact .cons first ih

/-- The document of a model with the given text between its braces. -/
def Model.text (name inside : String) : String :=
  "model " ++ name ++ " \x7b" ++ inside ++ "\x7d"

/-- Where the text between the braces of a model begins. -/
def Model.inside (name : String) : Position :=
  Position.start.advance ("model " ++ name ++ " \x7b").toList

/-- Fields between braces declare a model. -/
lemma Model.ofText_of_declares {name : String} (hname : IsIdentifier name) (hother : name ≠ "model")
    {text : String} {fields : List Field} (h : Field.Declares (inside name) text.toList fields) :
    ofText (Model.text name text) = .ok [⟨name, ⟨1, 7⟩, fields⟩] := by
  obtain ⟨fs, hclosed, hfields⟩ := h
  have hfront : ("model " ++ name ++ " \x7b").toList =
      "model".toList ++ ' ' :: (name.toList ++ [' ', '\x7b']) := by
    simp
  have htext : (Model.text name text).toList =
      "model".toList ++ ' ' :: (name.toList ++ ' ' :: '\x7b' :: (text.toList ++ ['\x7d'])) := by
    simp [Model.text]
  rw [inside, hfront, Position.advance_append, Position.advance_cons, Position.advance_append]
    at hclosed
  have hbraces := hclosed.append (.mark (c := '\x7d') rfl .nil)
  have hname := Token.Closed.word hname hother (fun _ => stops_cons (by decide) _)
    (.blank (c := ' ') (by decide) (.mark (c := '\x7b') rfl hbraces))
  have hmodel :=
    Token.Closed.cons .model rfl (fun _ => stops_cons (by decide) _)
      (.blank (c := ' ') (by decide) hname)
  refine ofText_of_closed (htext ▸ hmodel) ?_
  exact .single (Model.Derives.mk rfl rfl rfl hfields rfl)

namespace SpacedLiteral

/-- The declaration of a field with a decorator, the arguments of which are spelled out. -/
def fieldText (name : String) (arguments : List SpacedLiteral) : String :=
  "a: string @" ++ name ++ "(" ++ String.ofList (listChars arguments) ++ ");"

/-- The field that is declared at a position, if the decorator has the literals as arguments. -/
def field (name : String) (arguments : List SpacedLiteral) (position : Position) : Field :=
  ⟨"a", position, { base := .primitive .string },
    [⟨name, arguments.map literal, position.advance "a: string ".toList⟩], false⟩

/-- The literals that are spelled out are the arguments of the decorator.

**Proof sketch.** The tokens are read one after another. No word goes on before the literals or
after them. -/
theorem declares_field {name : String} (hname : IsIdentifier name) (hother : name ≠ "model")
    {arguments : List SpacedLiteral} (hne : arguments ≠ []) (position : Position) :
    Field.Declares position (fieldText name arguments).toList [field name arguments position] := by
  have htext : (fieldText name arguments).toList = "a".toList ++ ':' :: ' ' :: ("string".toList ++
      ' ' :: '@' :: (name.toList ++ '(' :: (listChars arguments ++ [')'] ++ [';']))) := by
    simp [fieldText]
  have hsign : position.advance "a: string ".toList =
      ((((position.advance "a".toList).next ':').next ' ').advance "string".toList).next ' ' := by
    simp
  rw [field, hsign]
  obtain ⟨us, hliterals, hclosed⟩ := exists_separated hne
    (((((((position.advance "a".toList).next ':').next ' ').advance
      "string".toList).next ' ').next '@').advance name.toList |>.next '(')
  have harguments := hclosed [')'] _ (fun _ => stops_cons (by decide) _) (.mark rfl .nil)
  have hend := harguments.append (.mark (c := ';') rfl .nil)
  have hdecorator :=
    Token.Closed.mark (c := '@') rfl (.word hname hother (fun _ => stops_cons (by decide) _)
      (.mark (c := '(') rfl hend))
  have htypeName : IsIdentifier "string" :=
    isIdentifier_ofList 's' ['t', 'r', 'i', 'n', 'g'] rfl rfl
  have htype := Token.Closed.word htypeName (by decide) (fun _ => stops_cons (by decide) _)
    (.blank (c := ' ') (by decide) hdecorator)
  have hfieldName : IsIdentifier "a" := isIdentifier_ofList 'a' [] rfl rfl
  have hfield := Token.Closed.word hfieldName (by decide) (fun _ => stops_cons (by decide) _)
    (.mark (c := ':') rfl (.blank (c := ' ') (by decide) htype))
  have hstring : BaseType.ofName "string" = .primitive .string := by decide
  rw [htext]
  refine ⟨_, hfield, .single ?_⟩
  exact Field.derives_decorated rfl rfl rfl hstring rfl rfl (.given rfl hliterals rfl) rfl

/-- **Literals are read as they are spelled.** The literals are any that can be written, one at
least, and the decorator has any name. Wherever the declaration of the field stands, and whatever
follows it, the decorator has these literals in order as its arguments. So a model of any name, with
any fields before and after this one, declares it.

**Proof sketch.** A literal is one token, which ends where a blank, a comma or the parenthesis
follows, and the characters of a string are of no account up to its second quote. -/
theorem spellings_are_read (name : String) (hname : IsIdentifier name) (hother : name ≠ "model")
    (arguments : List SpacedLiteral) (hne : arguments ≠ []) :
    (∀ position, Field.Declares position (fieldText name arguments).toList
      [field name arguments position]) ∧
    ∀ (model front back : String) (before after : List Field),
      IsIdentifier model → model ≠ "model" →
      Field.Declares (Model.inside model) front.toList before →
      Field.Declares ((Model.inside model).advance (front ++ fieldText name arguments).toList)
        back.toList after →
      Model.ofText (Model.text model (front ++ fieldText name arguments ++ back)) =
        .ok [⟨model, ⟨1, 7⟩,
          before ++ field name arguments ((Model.inside model).advance front.toList) ::
            after⟩] := by
  refine ⟨declares_field hname hother hne,
    fun model front back before after hmodel hreserved hbefore hafter => ?_⟩
  have hfield := hbefore.append (declares_field hname hother hne _)
  rw [← String.toList_append] at hfield
  have hall := hfield.append hafter
  rw [← String.toList_append, List.append_assoc, List.singleton_append] at hall
  exact Model.ofText_of_declares hmodel hreserved hall

/-! ### Strings that look like something else -/

namespace Odd

/-- The null literal, without blanks. -/
def null : SpacedLiteral :=
  ⟨.null, [], [], nofun, nofun, nofun⟩

/-- The greatest number, after a line feed. -/
def greatest : SpacedLiteral :=
  ⟨.number 18446744073709551615, ['\n'], [' '], List.all_eq_true.1 rfl, List.all_eq_true.1 rfl,
  nofun⟩

/-- A string with the start of a comment, a comma, a line feed and a parenthesis. -/
def string : SpacedLiteral :=
  ⟨.string "/* , \n )", [' '], [], List.all_eq_true.1 rfl, nofun, by
    rintro _ ⟨⟩
    decide⟩

/-- The document in which these are arguments. -/
def text : String :=
  "model M \x7b a: string @enum(null,\n18446744073709551615 , \"/* , \n )\");\x7d"

end Odd

/-- The string is one argument, and the comment does not begin in it. -/
theorem spellings_are_read_odd :
    [Odd.null, Odd.greatest, Odd.string] ≠ [] ∧ IsIdentifier "enum" ∧ "enum" ≠ "model" ∧
      Model.text "M" (" " ++ fieldText "enum" [Odd.null, Odd.greatest, Odd.string] ++ "") =
        Odd.text ∧
      Model.ofText Odd.text = .ok [⟨"M", ⟨1, 7⟩, [⟨"a", ⟨1, 11⟩, { base := .primitive .string },
        [⟨"enum", [.null, .number 18446744073709551615, .string "/* , \n )"], ⟨1, 21⟩⟩],
          false⟩]⟩] := by
  have hne : [Odd.null, Odd.greatest, Odd.string] ≠ [] := by simp
  have hname : IsIdentifier "enum" := isIdentifier_ofList 'e' ['n', 'u', 'm'] rfl rfl
  have hmodel : IsIdentifier "M" := isIdentifier_ofList 'M' [] rfl rfl
  have hblank (position : Position) : Field.Declares position " ".toList [] :=
    ⟨[], Token.Closed.blanks (List.all_eq_true.1 (rfl : " ".toList.all Text.isBlank = true)), .nil⟩
  have hnothing (position : Position) : Field.Declares position "".toList [] := ⟨[], .nil, .nil⟩
  have htext : Model.text "M" (" " ++ fieldText "enum" [Odd.null, Odd.greatest, Odd.string] ++ "") =
      Odd.text := by
    decide
  refine ⟨hne, hname, by decide, htext, ?_⟩
  rw [← htext, (spellings_are_read "enum" hname (by decide) _ hne).2 "M" " " "" [] [] hmodel
    (by decide) (hblank _) (hnothing _)]
  rfl

end SpacedLiteral

end ModelSchema
