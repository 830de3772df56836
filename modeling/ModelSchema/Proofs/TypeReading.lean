import Mathlib.Data.List.Forall2
import ModelSchema.Proofs.Inside
import ModelSchema.Proofs.Pieces
import ModelSchema.Proofs.TypeMeaning
import ModelSchema.TypeScript.Printer

set_option autoImplicit false

/-!
# Reading written types back

The type that is written for a field is a spelling of one syntax tree, and that tree means what the
description of the field says.

## Main definitions

* `IsIdentifier`, `FieldSchema.HasIdentifiers` — the names that can be written.
* `TypeScript.Writes` — the tokens of what is written, wherever it stands.
* `TypeScript.WritesType`, `TypeScript.WritesAlternative` — an expression is written as a type, or
  as a postfix, with given alternatives.

## Main results

* `TypeScript.writes_identifier`, `TypeScript.writes_digits`, `TypeScript.writes_quoted` — what is
  written as one token.
* `FieldSchema.writesType` — the type of a field is written with the alternatives of the field.
* `FieldSchema.renderType_reads` — it has one reading, which means what the description says.
-/

namespace ModelSchema

open TypeScript

/-! ## Names -/

/-- A name is a word: a letter or an underscore, followed by such characters and digits. -/
def IsIdentifier (name : String) : Prop :=
  ∃ c cs, name.toList = c :: cs ∧ Piece.isWordStart c = true ∧ ∀ d ∈ cs, Piece.isWordPart d = true

/-- The names of all members, at every depth, are words. -/
def FieldSchema.HasIdentifiers (field : FieldSchema) : Prop :=
  field.Everywhere fun inner => ∀ fields, inner.fields = some fields → ∀ member ∈ fields,
    IsIdentifier member.1

namespace TypeScript

open TypeToken

/-! ## Tokens of what is written -/

/-- Characters are cut into tokens, whatever follows them that no word or number goes on in. -/
abbrev Writes (cs : List Char) (ts : List TypeToken) : Prop :=
  lexicon.Writes cs ts

section Writes

variable {c : Char} {cs : List Char} {ts : List TypeToken}

/-- Nothing has no tokens. -/
lemma Writes.nil : Writes [] [] :=
  Lexing.Writes.nil

/-- A gap before what is written. -/
lemma Writes.gap (h : isGap c = true) (hw : Writes cs ts) : Writes (c :: cs) ts :=
  Lexicon.Writes.gap h hw

/-- A mark before what is written. -/
lemma Writes.mark (h : isMark c = true) (hw : Writes cs ts) : Writes (c :: cs) (.mark c :: ts) :=
  Lexicon.Writes.mark h hw

/-- One text after another that does not go on with its last word. -/
lemma Writes.append {us : List TypeToken} {ds : List Char} (h : Writes cs ts)
    (hc : Piece.isWordPart c = false) (h' : Writes (c :: ds) us) :
    Writes (cs ++ c :: ds) (ts ++ us) :=
  Lexing.Writes.append h (fun _ => Lexing.stops_cons hc _) h'

/-- The indentation of what is written. -/
lemma Writes.indented (h : Writes cs ts) (width level : Nat) :
    Writes (indentation width level ++ cs) ts := by
  rw [indentation]
  induction level * width with
  | zero => simpa using h
  | succ n ih => exact ih.gap rfl

/-- A name is one token. -/
lemma writes_identifier {name : String} (h : IsIdentifier name) :
    Writes name.toList [.word name.toList] := by
  obtain ⟨c, cs, hname, hc, hcs⟩ := h
  rw [hname]
  exact Lexicon.writes_word hc hcs

/-- The decimal digits of a number are one token. -/
lemma writes_digits (n : Nat) : Writes (Nat.toDigits 10 n) [.number n] := by
  have hvalue : Nat.ofDigitChars 10 (Nat.toDigits 10 n) 0 = n := Nat.ofDigitChars_ten_toDigits
  have hdigits : Writes _ [TypeToken.number _] := Lexicon.writes_digits n
  rwa [hvalue] at hdigits

/-- Reading undoes the escapes of a quoted text. -/
lemma readQuoted?_flatMap (text rest : List Char) :
    readQuoted? (text.flatMap quotedChar ++ '\'' :: rest) = some (text, rest) := by
  induction text with
  | nil => rfl
  | cons c text ih =>
    rw [List.flatMap_cons, List.append_assoc, quotedChar]
    split
    · simp [readQuoted?, ih]
    · next h =>
      obtain ⟨hslash, hquote⟩ := not_or.1 h
      rw [List.singleton_append, readQuoted?.eq_4 _ _ hquote (by simp [hslash]), ih]
      rfl

/-- A quoted text is one token. -/
lemma writes_quoted (s : String) : Writes (literalChars (.string s)) [.quoted s.toList] := by
  intro rest _
  have hliteral : lexicon.literal? (s.toList.flatMap quotedChar ++ '\'' :: rest) =
      some (.quoted s.toList, rest) := by
    change (readQuoted? _).map _ = _
    rw [readQuoted?_flatMap]
    rfl
  rw [literalChars, List.cons_append, Lexicon.all?_quote, List.append_assoc, List.singleton_append,
    hliteral]
  rfl

end Writes

/-! ## Types as they are written

An expression that is not a union is written as one postfix, so that brackets or a bar after it
belong to no part of it. -/

section Types

variable {width level : Nat}

/-- An expression is written as a type with the given alternatives, which is a single postfix unless
the expression is a union. -/
def WritesType (width level : Nat) (expr : TypeExpr) (trees : List TypeTree) : Prop :=
  ∃ type : TypeSyntax, Writes (expr.chars width level) type.tokens ∧ type.tree = trees ∧
    (expr.isUnion = false → ∃ p, type = .one p)

/-- An expression is written as a postfix with one alternative. -/
def WritesAlternative (width level : Nat) (expr : TypeExpr) (tree : TypeTree) : Prop :=
  ∃ p : PostfixSyntax, Writes (expr.chars width level) p.tokens ∧ p.tree = [tree] ∧
    expr.isUnion = false

/-- An alternative alone is a type. -/
lemma WritesAlternative.writesType {expr : TypeExpr} {tree : TypeTree}
    (h : WritesAlternative width level expr tree) : WritesType width level expr [tree] := by
  obtain ⟨p, hp, htree, -⟩ := h
  exact ⟨.one p, hp, htree, fun _ => ⟨p, rfl⟩⟩

/-- A primary type is an alternative. -/
lemma writesAlternative_of_primary {expr : TypeExpr} {tree : TypeTree} (primary : PrimarySyntax)
    (h : Writes (expr.chars width level) primary.tokens) (htree : primary.tree = [tree])
    (hexpr : expr.isUnion = false) : WritesAlternative width level expr tree := by
  refine ⟨.mk primary 0, ?_, htree, hexpr⟩
  simpa only [PostfixSyntax.tokens, bracketTokens, List.append_nil] using h

/-- The word of a keyword. -/
def Keyword.word : Keyword → TypeWord
  | .string => .string
  | .number => .number
  | .boolean => .boolean
  | .object => .object
  | .any => .any

/-- The letters of a word are one token. -/
lemma writes_letters (word : TypeWord) : Writes word.letters [.word word.letters] := by
  cases word <;> exact Lexicon.writes_word rfl (List.all_eq_true.1 rfl)

/-- A keyword is written as its word. -/
lemma writesAlternative_keyword (keyword : Keyword) :
    WritesAlternative width level (.keyword keyword) (.word keyword.word) := by
  have hletters : keyword.chars = keyword.word.letters := by cases keyword <;> rfl
  refine writesAlternative_of_primary (.word keyword.word) ?_ rfl rfl
  rw [TypeExpr.chars, hletters]
  exact writes_letters keyword.word

/-- A literal is written as its own type. -/
lemma writesAlternative_literal (value : Literal) :
    WritesAlternative width level (.literal value) (literalTree value) := by
  cases value with
  | null => exact writesAlternative_of_primary (.word .null) (writes_letters .null) rfl rfl
  | bool b =>
    cases b with
    | false => exact writesAlternative_of_primary (.word .false) (writes_letters .false) rfl rfl
    | true => exact writesAlternative_of_primary (.word .true) (writes_letters .true) rfl rfl
  | number n => exact writesAlternative_of_primary (.number n.toNat) (writes_digits n.toNat) rfl rfl
  | string s =>
    refine writesAlternative_of_primary (.quoted s.toList) (writes_quoted s) ?_ rfl
    rw [PrimarySyntax.tree, String.ofList_toList]
    rfl

/-- Brackets after brackets are one pair more. -/
lemma bracketTokens_append (n : Nat) :
    bracketTokens n ++ [.mark '[', .mark ']'] = bracketTokens (n + 1) := by
  induction n with
  | zero => rfl
  | succ n ih => simpa [bracketTokens] using ih

/-- An array is written with one more pair of brackets, after parentheses if its items are a
union. -/
lemma writesAlternative_array {item : TypeExpr} {trees : List TypeTree}
    (h : WritesType width level item trees) :
    WritesAlternative width level (.array item) (.array trees) := by
  obtain ⟨type, hw, rfl, hone⟩ := h
  have hbrackets : Writes ['[', ']'] [.mark '[', .mark ']'] := (Writes.nil.mark rfl).mark rfl
  cases hitem : item.isUnion with
  | true =>
    refine ⟨.mk (.parens type) 1, ?_, rfl, rfl⟩
    have htail := hw.append rfl (hbrackets.mark (c := ')') rfl)
    simpa [TypeExpr.chars, hitem, PostfixSyntax.tokens, PrimarySyntax.tokens, bracketTokens] using
      htail.mark (c := '(') rfl
  | false =>
    obtain ⟨⟨primary, n⟩, rfl⟩ := hone hitem
    refine ⟨.mk primary (n + 1), ?_, rfl, rfl⟩
    rw [TypeExpr.chars, if_neg (by simp [hitem]), PostfixSyntax.tokens, ← bracketTokens_append,
      ← List.append_assoc]
    exact hw.append rfl hbrackets

/-- Alternatives are written as one type, in order. -/
lemma writes_alternatives {exprs : List TypeExpr} {trees : List TypeTree}
    (h : List.Forall₂ (WritesAlternative width level) exprs trees) (hne : exprs ≠ []) :
    ∃ type : TypeSyntax,
      Writes (alternativesChars (alternativeTexts width level exprs)) type.tokens ∧
      type.tree = trees := by
  induction h with
  | nil => exact absurd rfl hne
  | @cons expr tree exprs trees hexpr hexprs ih =>
    obtain ⟨p, hp, htree, -⟩ := hexpr
    cases exprs with
    | nil =>
      cases hexprs
      exact ⟨.one p, hp, htree⟩
    | cons second exprs =>
      obtain ⟨others, hothers, rfl⟩ := ih (by simp)
      refine ⟨.more p others, hp.append rfl (((hothers.gap rfl).mark rfl).gap rfl), ?_⟩
      rw [TypeSyntax.tree, htree]
      rfl

/-- Alternatives are written as a type of them all. -/
lemma writesType_oneOf {exprs : List TypeExpr} {trees : List TypeTree}
    (h : List.Forall₂ (WritesAlternative width level) exprs trees) (hne : exprs ≠ []) :
    WritesType width level (TypeExpr.oneOf exprs) trees := by
  cases h with
  | nil => exact absurd rfl hne
  | cons hexpr hexprs =>
    cases hexprs with
    | nil => exact hexpr.writesType
    | cons hsecond hexprs =>
      obtain ⟨type, hw, htree⟩ := writes_alternatives (.cons hexpr (.cons hsecond hexprs)) (by simp)
      exact ⟨type, hw, htree, nofun⟩

/-- The members of an object are written as those of a block. -/
lemma writes_members {members : List (String × FieldSchema)}
    (h : ∀ member ∈ members, IsIdentifier member.1 ∧
      WritesType width level member.2.typeExpr member.2.typeTree) :
    ∃ block : BlockSyntax, Writes (membersChars width level (memberTypes members)) block.tokens ∧
      block.tree = membersTree members := by
  induction members with
  | nil => exact ⟨.nil, Writes.nil, rfl⟩
  | cons member members ih =>
    obtain ⟨name, field⟩ := member
    obtain ⟨hname, type, hw, htree, -⟩ := h (name, field) (by simp)
    obtain ⟨others, hothers, hrest⟩ := ih fun member hm => h member (.tail _ hm)
    refine ⟨.cons name.toList (!field.required) type others, ?_, ?_⟩
    · have htype :=
        ((hw.append rfl (hothers.mark (c := ';') rfl)).gap (c := ' ') rfl).mark (c := ':') rfl
      rw [memberTypes, membersChars, BlockSyntax.tokens]
      simp only [List.append_assoc]
      refine Writes.gap rfl (Writes.indented ?_ _ _)
      cases field.required with
      | true => exact (writes_identifier hname).append rfl htype
      | false => exact (writes_identifier hname).append rfl (htype.mark (c := '?') rfl)
    · rw [BlockSyntax.tree, htree, hrest, String.ofList_toList]
      rfl

/-- An object is written as a block. -/
lemma writesAlternative_object {members : List (String × FieldSchema)}
    (h : ∀ member ∈ members, IsIdentifier member.1 ∧
        WritesType width (level + 1) member.2.typeExpr member.2.typeTree) :
    WritesAlternative width level (.object (memberTypes members))
      (.object (membersTree members)) := by
  obtain ⟨block, hw, htree⟩ := writes_members h
  refine writesAlternative_of_primary (.block block) ?_ (by rw [PrimarySyntax.tree, htree]) rfl
  have hclose : Writes (indentation width level ++ ['}']) [.mark '}'] :=
    (Writes.nil.mark rfl).indented _ _
  rw [TypeExpr.chars, PrimarySyntax.tokens]
  exact (hw.append rfl (hclose.gap rfl)).mark rfl

end Types

end TypeScript

/-! ## Reading the type of a field -/

namespace FieldSchema

/-- The type of the kind of a field, as it is written. -/
def kindType (field : FieldSchema) : TypeExpr :=
  match field.kind with
  | .string | .email | .uuid | .date => .keyword .string
  | .number => .keyword .number
  | .boolean => .keyword .boolean
  | .array => .array (itemType field.item)
  | .object => fieldsType field.fields

/-- A restricted field is printed as its literals, and null if it may be null. -/
lemma typeExpr_of_choices {field : FieldSchema} {values : List Literal}
    (h : field.choices = some values) (hne : values ≠ []) :
    field.typeExpr = TypeExpr.oneOf (literalTypes values ++ nullType field.nullable) := by
  obtain ⟨value, values, rfl⟩ := List.exists_cons_of_ne_nil hne
  cases field
  cases h
  rfl

/-- Any other field is printed as its kind, and null if it may be null. -/
lemma typeExpr_of_kind {field : FieldSchema} (h : field.isEnum = false) :
    field.typeExpr = TypeExpr.oneOf (field.kindType :: nullType field.nullable) := by
  obtain ⟨kind, _, _, _, choices, _, _, _, _, _, _⟩ := field
  match choices with
  | none => cases kind <;> rfl
  | some [] => cases kind <;> rfl
  | some (_ :: _) => cases h

/-- The literals that a field is restricted to are written as alternatives. -/
lemma forall₂_literals (width level : Nat) (values : List Literal) :
    List.Forall₂ (WritesAlternative width level) (literalTypes values)
      (values.map literalTree) := by
  rw [literalTypes, List.forall₂_map_left_iff, List.forall₂_map_right_iff, List.forall₂_same]
  exact fun value _ => writesAlternative_literal value

/-- Null may follow as the last alternative. -/
lemma forall₂_null (width level : Nat) (field : FieldSchema) :
    List.Forall₂ (WritesAlternative width level) (nullType field.nullable) field.nullTree := by
  unfold nullType nullTree
  split
  · exact .cons (writesAlternative_literal .null) .nil
  · exact .nil

/-- The type of a field is written with the alternatives of the field, at every level.

**Proof sketch.** Induction on the description. What stands in an array or under a name is written
as a type, by induction; hence the type of the kind, and each literal, is written as one postfix,
and null after it as another one. -/
theorem writesType (width : Nat) (field : FieldSchema) (h : field.HasIdentifiers) (level : Nat) :
    WritesType width level field.typeExpr field.typeTree := by
  induction field using FieldSchema.induction generalizing level with
  | step field item member =>
    obtain ⟨hnames, hitems, hinside⟩ := everywhere_iff.1 h
    have hitem : WritesType width level (itemType field.item) (itemTree field.item) := by
      cases hi : field.item with
      | none => exact (writesAlternative_keyword .any).writesType
      | some inner => exact item inner hi (hitems inner hi) level
    have hfields : WritesAlternative width level (fieldsType field.fields)
        (fieldsTree field.fields) := by
      cases hf : field.fields with
      | none => exact writesAlternative_keyword .object
      | some fields =>
        refine writesAlternative_object fun m hm => ⟨hnames fields hf m hm, ?_⟩
        exact member fields hf m hm (hinside fields hf m hm) (level + 1)
    have hkind : WritesAlternative width level field.kindType field.kindTree := by
      unfold kindType kindTree
      cases field.kind with
      | string | email | uuid | date => exact writesAlternative_keyword .string
      | number => exact writesAlternative_keyword .number
      | boolean => exact writesAlternative_keyword .boolean
      | array => exact writesAlternative_array hitem
      | object => exact hfields
    obtain ⟨values, hvalues, hne⟩ | hfree := field.restricted_or_free
    · rw [typeExpr_of_choices hvalues hne, typeTree_of_choices hvalues hne]
      refine writesType_oneOf (List.rel_append (forall₂_literals width level values) ?_) ?_
      · exact forall₂_null width level field
      · simpa [literalTypes] using fun h => absurd h hne
    · rw [typeExpr_of_kind hfree, typeTree_of_kind hfree]
      exact writesType_oneOf (.cons hkind (forall₂_null width level field)) (by simp)

/-- The type of a field is a spelling of a syntax tree with the alternatives of the field. -/
theorem exists_spells {field : FieldSchema} (h : field.HasIdentifiers) (options : EmitOptions)
    (level : Nat) :
    ∃ type : TypeSyntax, type.Spells (field.renderType options level) ∧
      type.tree = field.typeTree := by
  obtain ⟨type, hw, htree, -⟩ := writesType options.indentWidth.toNat field h level
  refine ⟨type, ?_, htree⟩
  have hall := hw [] nofun
  rw [List.append_nil, Lexicon.all?_nil, Option.map_some, List.append_nil] at hall
  rw [TypeSyntax.Spells, renderType, String.toList_ofList]
  exact hall

/-- **A written type has one reading, which means what the description says.** A field whose names
are words is written, with any options and at any level, as a spelling of exactly one syntax tree,
the alternatives of which are those of the field. Hence fields that are written alike have the same
alternatives. -/
theorem renderType_reads (field : FieldSchema) (h : field.HasIdentifiers) :
    (∀ (options : EmitOptions) (level : Nat), ∃ type : TypeSyntax, type.tree = field.typeTree ∧
      ∀ reading : TypeSyntax, reading.Spells (field.renderType options level) ↔ reading = type) ∧
    ∀ other : FieldSchema, other.HasIdentifiers →
      ∀ (options options' : EmitOptions) (level level' : Nat),
      field.renderType options level = other.renderType options' level' →
        field.typeTree = other.typeTree := by
  constructor
  · intro options level
    obtain ⟨type, hspells, htree⟩ := exists_spells h options level
    refine ⟨type, htree, fun reading => ⟨fun hr => TypeSyntax.eq_of_spells hr hspells, ?_⟩⟩
    rintro rfl
    exact hspells
  · intro other hother options options' level level' htext
    obtain ⟨type, hspells, htree⟩ := exists_spells h options level
    obtain ⟨type', hspells', htree'⟩ := exists_spells hother options' level'
    rw [htext] at hspells
    rw [← htree, ← htree', TypeSyntax.eq_of_spells hspells hspells']

/-! ### A union in an array -/

namespace Post

/-- The tags of a post, each of which is one of two texts or null. -/
def tags : FieldSchema :=
  .ofArray { kind := .string, choices := some [.string "a | b", .string "it's"], nullable := true }

/-- The members of a post, a title and tags. -/
def members : Schema :=
  [("title", { kind := .string, required := true }), ("tags", tags)]

/-- A post. -/
def post : FieldSchema :=
  .ofObject members

/-- The names of a post are identifiers. -/
lemma hasIdentifiers : post.HasIdentifiers := by
  have bare (field : FieldSchema) (hitem : field.item = none) (hfields : field.fields = none) :
      field.HasIdentifiers :=
    everywhere_of_bare (fun fields h => by rw [hfields] at h; cases h) hitem hfields
  refine everywhere_ofObject.2 ⟨?_, ?_⟩
  · rintro _ ⟨⟩ member hm
    simp only [members, List.mem_cons, List.not_mem_nil, or_false] at hm
    obtain rfl | rfl := hm
    · exact ⟨'t', _, rfl, rfl, List.all_eq_true.1 rfl⟩
    · exact ⟨'t', _, rfl, rfl, List.all_eq_true.1 rfl⟩
  · intro member hm
    simp only [members, List.mem_cons, List.not_mem_nil, or_false] at hm
    obtain rfl | rfl := hm
    · exact bare _ rfl rfl
    · exact everywhere_ofArray.2 ⟨fun _ h => (by cases h), bare _ rfl rfl⟩

/-- The type of a post as it is written. -/
def text : String :=
  "\x7b\n  title: string;\n  tags?: ('a | b' | 'it\\'s' | null)[];\n\x7d"

/-- The alternatives of a post, of which there is one. -/
def tree : List TypeTree :=
  [.object [("title", false, [.word .string]),
    ("tags", true, [.array [.text "a | b", .text "it's", .word .null]])]]

end Post

/-- Neither the bar nor the quote in a tag is taken for syntax, and the brackets belong to all of
the union. -/
theorem renderType_reads_post : Post.post.HasIdentifiers ∧ Post.post.renderType {} 0 = Post.text ∧
    ∃ type : TypeSyntax, type.tree = Post.tree ∧
      ∀ reading : TypeSyntax, reading.Spells Post.text ↔ reading = type := by
  have htext : Post.post.renderType {} 0 = Post.text := by rfl
  have htree : Post.post.typeTree = Post.tree := by rfl
  obtain ⟨reads, -⟩ := renderType_reads Post.post Post.hasIdentifiers
  obtain ⟨type, hmeaning, hreading⟩ := reads {} 0
  exact ⟨Post.hasIdentifiers, htext, type, hmeaning.trans htree, htext ▸ hreading⟩

end FieldSchema

end ModelSchema
