import ModelSchema.Proofs.Canonical
import ModelSchema.Proofs.Offences
import ModelSchema.Proofs.ScriptStrings
import ModelSchema.Proofs.Tiling
import ModelSchema.Proofs.TypeMembers

set_option autoImplicit false

/-!
# The strings of a declaration

A declaration has a string literal for each text that a field is restricted to, in order. The
literal denotes the text, as long as none of these texts has a line break. A document may well have
such a text, and then the declaration is no script.

## Main definitions

* `TypeScript.TypeExpr.strings`, `Schema.strings` — the texts of a type, in order.
* `FieldSchema.Shows` — a field shows a text, in a restriction that is written.

## Main results

* `FieldSchema.mem_strings_iff` — the texts of the type of a field are those that it shows.
* `FieldSchema.spells` — the type of a field is written with a string literal for each of them.
* `Compilation.hasIdentifiers` — the names in the schema of a document are words.
* `Compilation.declaration_string_literals` — the string literals of a declaration.
* `Compilation.line_break_is_not_escaped` — a declaration that is no script.
-/

namespace ModelSchema

open TypeScript

/-! ## The texts of a type -/

namespace TypeScript

mutual

/-- The texts that are literals in a type, in order. -/
def TypeExpr.strings : TypeExpr → List String
  | .keyword _ => []
  | .literal (.string s) => [s]
  | .literal _ => []
  | .union alternatives => alternativeStrings alternatives
  | .array item => item.strings
  | .object members => memberStrings members

/-- The texts of alternatives. -/
def alternativeStrings : List TypeExpr → List String
  | [] => []
  | alternative :: alternatives => alternative.strings ++ alternativeStrings alternatives

/-- The texts of the types of members. -/
def memberStrings : List (String × Bool × TypeExpr) → List String
  | [] => []
  | (_, _, type) :: members => type.strings ++ memberStrings members

end

/-- The texts of alternatives in a row come one part after another. -/
@[simp]
lemma alternativeStrings_append (exprs others : List TypeExpr) :
    alternativeStrings (exprs ++ others) =
      alternativeStrings exprs ++ alternativeStrings others := by
  induction exprs with
  | nil => rfl
  | cons expr exprs ih =>
    rw [List.cons_append, alternativeStrings, ih, alternativeStrings, List.append_assoc]

/-- The texts of a union are those of its alternatives. -/
@[simp]
lemma strings_oneOf (exprs : List TypeExpr) :
    (TypeExpr.oneOf exprs).strings = alternativeStrings exprs := by
  unfold TypeExpr.oneOf
  split
  · simp [alternativeStrings]
  · rw [TypeExpr.strings]

/-- Null has no texts. -/
@[simp]
lemma alternativeStrings_nullType (nullable : Bool) :
    alternativeStrings (nullType nullable) = [] := by
  cases nullable <;> rfl

/-- The only text of a literal is itself. -/
lemma mem_strings_literal {value : Literal} {s : String} :
    s ∈ (TypeExpr.literal value).strings ↔ value = .string s := by
  cases value with
  | string u => simpa [TypeExpr.strings] using eq_comm
  | _ => simp [TypeExpr.strings]

/-- The texts of literals are those among them. -/
lemma mem_alternativeStrings_literalTypes {values : List Literal} {s : String} :
    s ∈ alternativeStrings (literalTypes values) ↔ .string s ∈ values := by
  unfold literalTypes
  induction values with
  | nil => simp [alternativeStrings]
  | cons value values ih =>
    rw [List.map_cons, alternativeStrings, List.mem_append, ih, mem_strings_literal, List.mem_cons,
      eq_comm]

/-- The texts of members are those of the types of their fields. -/
lemma mem_memberStrings_memberTypes {fields : List (String × FieldSchema)} {s : String} :
    s ∈ memberStrings (memberTypes fields) ↔ ∃ member ∈ fields, s ∈ member.2.typeExpr.strings := by
  induction fields with
  | nil => simp [memberTypes, memberStrings]
  | cons member fields ih =>
    obtain ⟨name, field⟩ := member
    rw [memberTypes, memberStrings, List.mem_append, ih]
    simp

end TypeScript

/-- A field shows a text: it is restricted to literals, of which the text is one, or its elements
show it or one of its members does. Nothing that is inside a restricted field is shown, since it is
written as its literals. -/
inductive FieldSchema.Shows (s : String) : FieldSchema → Prop where
  | choice {field : FieldSchema} {values : List Literal} (restricted : field.choices = some values)
      (mem : .string s ∈ values) : Shows s field
  | item {field item : FieldSchema} (free : field.isEnum = false) (kind : field.kind = .array)
      (described : field.item = some item) (inside : Shows s item) : Shows s field
  | member {field : FieldSchema} {fields : List (String × FieldSchema)}
      {member : String × FieldSchema} (free : field.isEnum = false) (kind : field.kind = .object)
      (described : field.fields = some fields)
      (mem : member ∈ fields) (inside : Shows s member.2) : Shows s field

/-- The texts of the type of a schema, in order. -/
def Schema.strings (schema : Schema) : List String :=
  schema.typeExpr.strings

namespace FieldSchema

variable {field : FieldSchema} {s : String}

/-- The texts of the type of a kind are those of the elements of an array or of the members of an
object. -/
lemma mem_strings_kindType : s ∈ field.kindType.strings ↔
    (field.kind = .array ∧ ∃ item, field.item = some item ∧ s ∈ item.typeExpr.strings) ∨
      field.kind = .object ∧ ∃ fields, field.fields = some fields ∧
        ∃ member ∈ fields, s ∈ member.2.typeExpr.strings := by
  unfold kindType
  cases hkind : field.kind with
  | array =>
    cases field.item with
    | none => simp [itemType, TypeExpr.strings]
    | some item => simp [itemType, TypeExpr.strings]
  | object =>
    cases field.fields with
    | none => simp [fieldsType, TypeExpr.strings]
    | some fields => simp [fieldsType, TypeExpr.strings, mem_memberStrings_memberTypes]
  | _ => simp [TypeExpr.strings]

/-- What a free field shows is inside it. -/
lemma shows_iff_of_free (hfree : field.isEnum = false) :
    field.Shows s ↔
      (field.kind = .array ∧ ∃ item, field.item = some item ∧ item.Shows s) ∨
      field.kind = .object ∧
      ∃ fields, field.fields = some fields ∧ ∃ member ∈ fields, member.2.Shows s := by
  constructor
  · intro h
    cases h with
    | choice restricted mem =>
      obtain ⟨value, values, rfl⟩ := List.exists_cons_of_ne_nil (List.ne_nil_of_mem mem)
      rw [isEnum, restricted] at hfree
      cases hfree
    | item _ kind described inside => exact .inl ⟨kind, _, described, inside⟩
    | member _ kind described mem inside => exact .inr ⟨kind, _, described, _, mem, inside⟩
  · rintro (⟨kind, item, described, inside⟩ | ⟨kind, fields, described, member, mem, inside⟩)
    · exact .item hfree kind described inside
    · exact .member hfree kind described mem inside

/-- A restricted field shows the texts among its literals. -/
lemma shows_iff_of_choices {values : List Literal} (hvalues : field.choices = some values)
    (hne : values ≠ []) : field.Shows s ↔ .string s ∈ values := by
  obtain ⟨value, values, rfl⟩ := List.exists_cons_of_ne_nil hne
  have henum : field.isEnum = true := by rw [isEnum, hvalues]
  constructor
  · intro h
    cases h with
    | choice restricted mem => exact Option.some.inj (hvalues.symm.trans restricted) ▸ mem
    | item free | member free => cases henum.symm.trans free
  · exact .choice hvalues

/-- The texts of the type of a field are those that the field shows. -/
theorem mem_strings_iff : s ∈ field.typeExpr.strings ↔ field.Shows s := by
  induction field using FieldSchema.induction with
  | step field item member =>
    obtain ⟨values, hvalues, hne⟩ | hfree := field.restricted_or_free
    · rw [typeExpr_of_choices hvalues hne, strings_oneOf, alternativeStrings_append,
        alternativeStrings_nullType, List.append_nil, mem_alternativeStrings_literalTypes,
        shows_iff_of_choices hvalues hne]
    · rw [typeExpr_of_kind hfree, strings_oneOf, alternativeStrings, alternativeStrings_nullType,
        List.append_nil, mem_strings_kindType, shows_iff_of_free hfree]
      refine or_congr
        (and_congr_right' (exists_congr fun inner => and_congr_right fun hi => item inner hi)) ?_
      refine and_congr_right' (exists_congr fun fields => and_congr_right fun hf => ?_)
      exact exists_congr fun m => and_congr_right fun hm => member fields hf m hm

end FieldSchema

/-- The texts of the type of a schema are those that an object with its members shows. -/
lemma Schema.mem_strings_iff {schema : Schema} {s : String} :
    s ∈ schema.strings ↔ (FieldSchema.ofObject schema).Shows s := by
  rw [← FieldSchema.mem_strings_iff]
  rfl

/-! ## Types as they are written -/

namespace TypeScript

variable {width level : ℕ}

/-- The type of an expression is written with a string literal for each of its texts. -/
abbrev SpellsType (width level : ℕ) (expr : TypeExpr) : Prop :=
  Spells (expr.chars width level) expr.strings

/-- A keyword spells no texts. -/
lemma spells_keyword (keyword : Keyword) : SpellsType width level (.keyword keyword) := by
  rw [SpellsType, TypeExpr.chars, TypeExpr.strings]
  cases keyword <;> exact spells_word rfl (List.all_eq_true.1 rfl)

/-- A literal spells itself, if it is a text. -/
lemma spells_literal (value : Literal) : SpellsType width level (.literal value) := by
  rw [SpellsType, TypeExpr.chars]
  cases value with
  | null => exact spells_word rfl (List.all_eq_true.1 rfl)
  | bool b => cases b <;> exact spells_word rfl (List.all_eq_true.1 rfl)
  | number n => exact spells_digits n.toNat
  | string s => exact spells_string s

/-- An array spells the texts of its elements. -/
lemma spells_array {item : TypeExpr} (h : SpellsType width level item) :
    SpellsType width level (.array item) := by
  have hbrackets : Spells ['[', ']'] [] := (Spells.nil.mark rfl).mark rfl
  rw [SpellsType, TypeExpr.chars, TypeExpr.strings, ← List.append_nil item.strings]
  split
  · exact (h.append_cons rfl (hbrackets.mark (c := ')') rfl)).mark rfl
  · exact h.append_cons rfl hbrackets

/-- Alternatives are written with bars between them. -/
lemma spells_alternatives {exprs : List TypeExpr}
    (h : ∀ expr ∈ exprs, SpellsType width level expr) :
    Spells (alternativesChars (alternativeTexts width level exprs)) (alternativeStrings exprs) := by
  induction exprs with
  | nil => exact .nil
  | cons expr exprs ih =>
    rw [List.forall_mem_cons] at h
    cases exprs with
    | nil =>
      rw [alternativeStrings, alternativeStrings, List.append_nil]
      exact h.1
    | cons second exprs => exact h.1.append_cons rfl ((((ih h.2).gap rfl).mark rfl).gap rfl)

/-- A union spells the texts of its alternatives. -/
lemma spells_oneOf {exprs : List TypeExpr} (h : ∀ expr ∈ exprs, SpellsType width level expr) :
    SpellsType width level (TypeExpr.oneOf exprs) := by
  rw [SpellsType, strings_oneOf]
  unfold TypeExpr.oneOf
  split
  · next expr =>
    rw [alternativeStrings, alternativeStrings, List.append_nil]
    exact h expr List.mem_cons_self
  · rw [TypeExpr.chars]
    exact spells_alternatives h

/-- Members are written on lines of their own. -/
lemma spells_members {fields : List (String × FieldSchema)}
    (h : ∀ member ∈ fields, IsIdentifier member.1 ∧ SpellsType width level member.2.typeExpr) :
    Spells (membersChars width level (memberTypes fields))
      (memberStrings (memberTypes fields)) := by
  induction fields with
  | nil => exact .nil
  | cons member fields ih =>
    obtain ⟨name, field⟩ := member
    obtain ⟨⟨hname, htype⟩, hothers⟩ := List.forall_mem_cons.1 h
    have hline :=
      ((htype.append_cons rfl ((ih hothers).mark (c := ';') rfl)).gap (c := ' ') rfl).mark
        (c := ':') rfl
    rw [memberTypes, membersChars, memberStrings]
    simp only [List.append_assoc]
    refine Spells.gap rfl (Spells.indented ?_ _ _)
    cases field.required with
    | true => exact (spells_identifier hname).append_cons rfl hline
    | false => exact (spells_identifier hname).append_cons rfl (hline.mark (c := '?') rfl)

/-- An object spells the texts of its members. -/
lemma spells_object {fields : List (String × FieldSchema)}
    (h : ∀ member ∈ fields, IsIdentifier member.1 ∧
        SpellsType width (level + 1) member.2.typeExpr) :
    SpellsType width level (.object (memberTypes fields)) := by
  have hclose : Spells (indentation width level ++ ['}']) [] := (Spells.nil.mark rfl).indented _ _
  rw [SpellsType, TypeExpr.chars, TypeExpr.strings, ← List.append_nil (memberStrings _)]
  exact ((spells_members h).append_cons rfl (hclose.gap rfl)).mark rfl

end TypeScript

/-- The type of a field is written with a string literal for each text that it shows.

**Proof sketch.** Induction on the description, as for the alternatives of the type. -/
theorem FieldSchema.spells (width : ℕ) (field : FieldSchema) (h : field.HasIdentifiers)
    (level : ℕ) : SpellsType width level field.typeExpr := by
  induction field using FieldSchema.induction generalizing level with
  | step field item member =>
    obtain ⟨hnames, hitems, hinside⟩ := everywhere_iff.1 h
    have hnull : ∀ expr ∈ nullType field.nullable, SpellsType width level expr := by
      unfold nullType
      split
      · exact List.forall_mem_singleton.2 (spells_literal .null)
      · nofun
    have hkind : SpellsType width level field.kindType := by
      unfold kindType
      cases field.kind with
      | string | email | uuid | date => exact spells_keyword .string
      | number => exact spells_keyword .number
      | boolean => exact spells_keyword .boolean
      | array =>
        refine spells_array ?_
        cases hi : field.item with
        | none => exact spells_keyword .any
        | some inner => exact item inner hi (hitems inner hi) level
      | object =>
        cases hf : field.fields with
        | none => exact spells_keyword .object
        | some fields =>
          refine spells_object fun m hm => ⟨hnames fields hf m hm, ?_⟩
          exact member fields hf m hm (hinside fields hf m hm) (level + 1)
    obtain ⟨values, hvalues, hne⟩ | hfree := field.restricted_or_free
    · rw [typeExpr_of_choices hvalues hne]
      refine spells_oneOf (List.forall_mem_append.2 ⟨?_, hnull⟩)
      exact List.forall_mem_map.2 fun value _ => spells_literal value
    · rw [typeExpr_of_kind hfree]
      exact spells_oneOf (List.forall_mem_cons.2 ⟨hkind, hnull⟩)

/-- A declaration under a word is written with a string literal for each text of the schema. -/
theorem Schema.spells_declaration {schema : Schema} (h : schema.HasIdentifiers)
    (options : EmitOptions) (style : Style) {name : String} (hname : IsIdentifier name) :
    Spells (schema.declaration options style name).toList schema.strings := by
  have htype := (FieldSchema.ofObject schema).spells options.indentWidth.toNat h 0
  have hbody : Spells (schema.typeExpr.chars options.indentWidth.toNat 0) schema.strings := htype
  rw [declaration, String.toList_ofList]
  cases style with
  | interface =>
    have hword : Spells "interface".toList [] := spells_word rfl (List.all_eq_true.1 rfl)
    have hheading : Style.heading name .interface =
        "interface".toList ++ ' ' :: (name.toList ++ [' ']) := rfl
    rw [hheading]
    simp only [List.append_assoc, List.cons_append, List.nil_append]
    exact hword.append_cons rfl
      (((spells_identifier hname).append_cons rfl (hbody.gap rfl)).gap rfl)
  | typeAlias =>
    have hword : Spells "type".toList [] := spells_word rfl (List.all_eq_true.1 rfl)
    have hheading : Style.heading name .typeAlias =
        "type".toList ++ ' ' :: (name.toList ++ [' ', '=', ' ']) := rfl
    rw [hheading]
    simp only [List.append_assoc, List.cons_append, List.nil_append]
    have hequals := ((hbody.gap (c := ' ') rfl).mark (c := '=') rfl).gap (c := ' ') rfl
    exact hword.append_cons rfl (((spells_identifier hname).append_cons rfl hequals).gap rfl)

/-! ## The names of a document -/

/-- The names in a field are words if those in its element and its members are. -/
lemma FieldSchema.hasIdentifiers_of {s : FieldSchema}
    (hitem : ∀ item, s.item = some item → item.HasIdentifiers)
    (hfields : ∀ members, s.fields = some members → Schema.HasIdentifiers members) :
    s.HasIdentifiers := by
  refine everywhere_iff.2 ⟨fun members h => ?_, hitem, fun members h => ?_⟩
  · exact (everywhere_ofObject.1 (hfields members h)).1 members rfl
  · exact (everywhere_ofObject.1 (hfields members h)).2

/-- No members have no names. -/
lemma Schema.hasIdentifiers_nil : Schema.HasIdentifiers [] :=
  FieldSchema.everywhere_ofObject.2 ⟨fun _ h => (by cases h; nofun), nofun⟩

/-- Members have identifiers when the first one has them and the others do. -/
lemma Schema.hasIdentifiers_cons {name : String} {s : FieldSchema} {schema : Schema}
    (hname : IsIdentifier name) (hs : s.HasIdentifiers) (h : Schema.HasIdentifiers schema) :
    Schema.HasIdentifiers ((name, s) :: schema) := by
  obtain ⟨hnames, hinside⟩ := FieldSchema.everywhere_ofObject.1 h
  refine FieldSchema.everywhere_ofObject.2 ⟨?_, List.forall_mem_cons.2 ⟨hs, hinside⟩⟩
  rintro _ ⟨⟩
  exact List.forall_mem_cons.2 ⟨hname, hnames schema rfl⟩

namespace Field.IsCanonical

variable {field : Field} {s : FieldSchema}

/-- Nothing inside a primitive field has a name. -/
lemma hasIdentifiers_of_primitive {kind : FieldKind} (h : field.IsCanonical s)
    (base : field.type.base = .primitive kind) : s.HasIdentifiers := by
  have bare {x : FieldSchema} (hx : x.IsOf field.type.base) (members : Schema) :
      x.fields ≠ some members := by
    intro hmembers
    obtain ⟨-, name, hname⟩ := hx.fields.1 (by rw [hmembers]; rfl)
    cases base.symm.trans hname
  refine FieldSchema.hasIdentifiers_of (fun item hitem => ?_) fun members hmembers =>
    absurd hmembers (bare h.shape _)
  obtain ⟨hof, hnone, -⟩ := h.element item hitem
  refine FieldSchema.hasIdentifiers_of (fun _ hi => ?_) fun members hmembers =>
    absurd hmembers (bare hof _)
  cases hnone.symm.trans hi

/-- The names inside a reference are those of the members that stand in its place. -/
lemma hasIdentifiers_of_reference {members : Schema} (h : field.IsCanonical s)
    (stands : field.substituted? s = some members) (hm : Schema.HasIdentifiers members) :
    s.HasIdentifiers := by
  unfold Field.substituted? at stands
  split at stands
  · next harray =>
    obtain ⟨item, hitem, hfields⟩ := Option.bind_eq_some_iff.1 stands
    refine FieldSchema.hasIdentifiers_of (fun inner hinner => ?_) fun own hown => ?_
    · obtain rfl := Option.some.inj (hitem.symm.trans hinner)
      refine FieldSchema.hasIdentifiers_of (fun _ hi => ?_) fun own hown => ?_
      · cases (h.element item hitem).2.1.symm.trans hi
      · obtain rfl := Option.some.inj (hfields.symm.trans hown)
        exact hm
    · -- an array has no members of its own
      have hobject := (h.shape.fields.1 (by rw [hown]; rfl)).1
      cases (h.array (by rw [hitem]; rfl)).symm.trans hobject
  · next hsingle =>
    refine FieldSchema.hasIdentifiers_of (fun inner hinner => ?_) fun own hown => ?_
    · exact absurd (h.item.1 (by rw [hinner]; rfl)) hsingle
    · obtain rfl := Option.some.inj (stands.symm.trans hown)
      exact hm

end Field.IsCanonical

/-- The names in the schema of fields are words, if those of all fields are. -/
lemma Schema.Canonical.hasIdentifiers {models : List Model} {fields : List Field} {schema : Schema}
    (h : Schema.Canonical models fields schema)
    (hmodels : ∀ model ∈ models, ∀ field ∈ model.fields, IsIdentifier field.name)
    (hfields : ∀ field ∈ fields, IsIdentifier field.name) : schema.HasIdentifiers := by
  induction h with
  | nil => exact Schema.hasIdentifiers_nil
  | primitive base own _ _ ih =>
    obtain ⟨hname, hothers⟩ := List.forall_mem_cons.1 hfields
    exact Schema.hasIdentifiers_cons hname (own.hasIdentifiers_of_primitive base) (ih hothers)
  | reference _ own _ declared stands _ _ inside rest =>
    obtain ⟨hname, hothers⟩ := List.forall_mem_cons.1 hfields
    have hs := own.hasIdentifiers_of_reference stands (inside (hmodels _ declared))
    exact Schema.hasIdentifiers_cons hname hs (rest hothers)

/-- The models and the fields that a text declares are named by words. -/
lemma Model.isIdentifier_of_ofText {text : String} {models : List Model}
    (h : ofText text = .ok models) :
    ∀ model ∈ models, IsIdentifier model.name ∧
      ∀ field ∈ model.fields, IsIdentifier field.name := by
  obtain ⟨ts, -, hwritten, hrun⟩ := exists_of_ofText h
  intro model hmodel
  obtain ⟨us, vs, ws, rfl, ⟨_, word, _, inside, _⟩⟩ :=
    (Prefix.run_eq_ok_iff.1 hrun).exists_of_mem hmodel
  refine ⟨(hwritten _ (by simp)).isIdentifier word, fun field hfield => ?_⟩
  obtain ⟨xs, ys, zs, rfl, hfield⟩ := inside.exists_of_mem hfield
  obtain ⟨name, statement, rfl, hkind, hname, -⟩ := hfield.exists_eq_cons
  exact hname ▸ (hwritten name (by simp)).isIdentifier hkind

namespace Compilation

variable {text : String} {options : CompileOptions} {compilation : Compilation}

/-- The root of a document and all members of its schema are named by words. -/
lemma hasIdentifiers (h : compile text options = .ok compilation) :
    IsIdentifier compilation.root ∧ compilation.schema.HasIdentifiers := by
  obtain ⟨hmodels, catalog, hcatalog, root, hroot, hname, hschema⟩ := exists_of_compile h
  rw [← hcatalog] at hmodels
  have hwords := Model.isIdentifier_of_ofText hmodels
  have hcanonical := Catalog.canonical_of_resolve (Model.isSpelled_of_ofText hmodels) hroot hschema
  obtain ⟨hword, hfields⟩ := hwords root hroot
  exact ⟨hname ▸ hword, hcanonical.hasIdentifiers (fun model hm => (hwords model hm).2) hfields⟩

/-- **The string literals of a declaration.** A declaration of the schema of a document, under the
name of the root or any other word, has each text that the schema shows between quotes: each quote
and each backslash of the text is spelled with a backslash, and undoing that gives the text. The
declaration is cut into tokens exactly if no text that is shown has a line break, and then its
string literals are those of the texts, in order.

**Proof sketch.** The names in the schema are words, since they are tokens of the document. So
everything that is written is one token or separates tokens, but for a text between quotes that has
a line break. -/
theorem declaration_string_literals (text : String) (options : CompileOptions)
    (compilation : Compilation) (h : compile text options = .ok compilation) :
    IsIdentifier compilation.root ∧
    (∀ s, s ∈ compilation.schema.strings ↔ (FieldSchema.ofObject compilation.schema).Shows s) ∧
    (∀ s ∈ compilation.schema.strings, ScriptToken.unescape? (escaped s) = some s.toList) ∧
    ∀ (emit : EmitOptions) (style : Style) (name : String), IsIdentifier name →
      let script := (compilation.schema.declaration emit style name).toList
      (∀ s ∈ compilation.schema.strings, '\'' :: (escaped s ++ ['\'']) <:+: script) ∧
      (ScriptToken.all? script = none ↔ ∃ s ∈ compilation.schema.strings, ¬ IsOneLine s) ∧
      ∀ tokens, ScriptToken.all? script = some tokens →
        tokens.filterMap ScriptToken.string? = compilation.schema.strings.map escaped := by
  obtain ⟨hroot, hnames⟩ := hasIdentifiers h
  refine ⟨hroot, fun s => Schema.mem_strings_iff, fun s _ => unescape?_escaped s,
    fun emit style name hname => ?_⟩
  have hspells := Schema.spells_declaration hnames emit style hname
  refine ⟨hspells.spelled, ?_⟩
  -- either every text is closed on its line, or the first one that is not stops everything
  by_cases hlines : ∀ s ∈ compilation.schema.strings, IsOneLine s
  · obtain ⟨ts, hw, hts⟩ := hspells.closed hlines
    have hall : ScriptToken.all? _ = some ts := Lexing.Writes.all hw Lexicon.all?_nil
    refine ⟨iff_of_false (by rw [hall]; exact Option.some_ne_none _) ?_, fun tokens htokens => ?_⟩
    · rintro ⟨s, hs, hline⟩
      exact hline (hlines s hs)
    · obtain rfl := Option.some.inj (hall.symm.trans htokens)
      exact hts
  · obtain ⟨s, hline⟩ := not_forall.1 hlines
    obtain ⟨hs, hbreak⟩ := Classical.not_imp.1 hline
    have hall := hspells.stuck s hs hbreak [] Lexing.stops_nil
    rw [List.append_nil] at hall
    exact ⟨iff_of_true hall ⟨s, hs, hbreak⟩, fun tokens htokens => by cases hall.symm.trans htokens⟩

/-! ### Quotes, backslashes and line breaks -/

/-- A document with texts that have quotes and backslashes, and with one text that is shown once,
although the model that it is in is used twice. -/
def quotesText : String :=
  "model B \x7b t?: number @enum(\"x\", 1); \x7d\n" ++
    "model A \x7b k: \"it's\" | \"a\\'\"; b: B[]; c: B @enum(2); \x7d"

/-- The schema of that document. -/
def quotesSchema : Schema :=
  let members : Schema := [("t", { kind := .number, choices := some [.string "x", .number 1] })]
  [("k", { kind := .string, required := true, choices := some [.string "it's", .string "a\\'"] }),
    ("b", { FieldSchema.ofArray { FieldSchema.ofObject members with required := true }
      with required := true }),
    ("c", { FieldSchema.ofObject members with required := true, choices := some [.number 2] })]

/-- The declaration of that schema. -/
def quotesDeclaration : String :=
  "type A = \x7b\n  k: 'it\\'s' | 'a\\\\\\'';\n" ++
    "  b: \x7b\n    t?: 'x' | 1;\n  \x7d[];\n  c: 2;\n\x7d"

/-- The quote after a backslash does not end the text that it is in. -/
theorem declaration_string_literals_quotes :
    ∃ compilation, compile quotesText {} = .ok compilation ∧
      compilation.schema.declaration {} .typeAlias "A" = quotesDeclaration ∧
      compilation.schema.strings = ["it's", "a\\'", "x"] ∧
      ∃ tokens, ScriptToken.all? quotesDeclaration.toList = some tokens ∧
        tokens.filterMap ScriptToken.string? =
          [['i', 't', '\\', '\'', 's'], ['a', '\\', '\\', '\\', '\''], ['x']] := by
  have hschema : compileSchema quotesText {} = .ok quotesSchema := by decide +kernel
  have hdeclaration : quotesSchema.declaration {} .typeAlias "A" = quotesDeclaration := by rfl
  have hstrings : quotesSchema.strings = ["it's", "a\\'", "x"] := by rfl
  have hword : IsIdentifier "A" := ⟨'A', [], rfl, rfl, List.all_eq_true.1 rfl⟩
  obtain ⟨compilation, h, hs⟩ := Outcome.map_eq_ok.1 hschema
  obtain ⟨-, -, -, hliterals⟩ := declaration_string_literals quotesText {} compilation h
  obtain ⟨-, hnone, hsome⟩ := hliterals {} .typeAlias "A" hword
  rw [hs, hdeclaration, hstrings] at hnone hsome
  have hlines : ¬ ∃ s ∈ ["it's", "a\\'", "x"], ¬ IsOneLine s := by decide
  obtain ⟨tokens, htokens⟩ := Option.ne_none_iff_exists'.1 (mt hnone.1 hlines)
  exact ⟨compilation, h, hs ▸ hdeclaration, hs ▸ hstrings, tokens, htokens, hsome tokens htokens⟩

/-- A document with a text that has a line break. -/
def lineBreakText : String :=
  "model A \x7b x: \"a\nb\"; \x7d"

/-- The schema of that document. -/
def lineBreakSchema : Schema :=
  [("x", { kind := .string, required := true, choices := some [.string "a\nb"] })]

/-- A line break is written between quotes as it is, and the declaration is not cut into tokens. -/
theorem line_break_is_not_escaped : ∃ compilation, compile lineBreakText {} = .ok compilation ∧
    (FieldSchema.ofObject compilation.schema).Shows "a\nb" ∧
    compilation.schema.declaration {} .interface "A" = "interface A \x7b\n  x: 'a\nb';\n\x7d" ∧
    ScriptToken.all? (compilation.schema.declaration {} .interface "A").toList = none := by
  have hschema : compileSchema lineBreakText {} = .ok lineBreakSchema := by decide +kernel
  have hdeclaration :
      lineBreakSchema.declaration {} .interface "A" = "interface A \x7b\n  x: 'a\nb';\n\x7d" := by
    rfl
  have hstrings : lineBreakSchema.strings = ["a\nb"] := by rfl
  have hshown : "a\nb" ∈ lineBreakSchema.strings := hstrings ▸ List.mem_singleton_self _
  have hword : IsIdentifier "A" := ⟨'A', [], rfl, rfl, List.all_eq_true.1 rfl⟩
  obtain ⟨compilation, h, hs⟩ := Outcome.map_eq_ok.1 hschema
  have hnames := (hasIdentifiers h).2
  refine ⟨compilation, h, ?_⟩
  rw [hs] at hnames ⊢
  have hbreak : ¬ IsOneLine "a\nb" := by decide
  have hspells := Schema.spells_declaration hnames {} .interface hword
  have hstuck := hspells.stuck _ hshown hbreak [] Lexing.stops_nil
  rw [List.append_nil] at hstuck
  exact ⟨Schema.mem_strings_iff.1 hshown, hdeclaration, hstuck⟩

end Compilation

end ModelSchema
