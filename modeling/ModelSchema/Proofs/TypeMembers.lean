import ModelSchema.Proofs.Fitting
import ModelSchema.Proofs.TypeReading

set_option autoImplicit false

/-!
# Samples are members of the written types

The text of a type denotes a set of values, by the reading that it has. The samples of a field, and
those of a schema, are in the sets that the texts written for them denote.

## Main definitions

* `TypeScript.TypeTree.Holds`, `TypeScript.AnyHolds` — the values of an alternative, and those of a
  type.
* `TypeScript.IsMember` — the values of the type that a text spells.
* `TypeScript.Style.Declares` — the texts that declare a name for a type.

## Main results

* `TypeScript.isMember_iff` — membership does not depend on how a text is read.
* `FieldSchema.Fits.anyHolds` — a value that fits a field is one of the values of its type.
* `FieldSchema.samples_are_members` — the samples of a field and of a schema are values of the types
  that are written for them.
-/

namespace ModelSchema

namespace TypeScript

/-! ## The values of a type -/

mutual

/-- A value of an alternative. Each literal denotes itself. -/
inductive TypeTree.Holds : TypeTree → Json → Prop where
  | string (s : String) : TypeTree.Holds (.word .string) (.string s)
  | anyNumber (n : ℕ) : TypeTree.Holds (.word .number) (.number n)
  | boolean (b : Bool) : TypeTree.Holds (.word .boolean) (.bool b)
  | any (value : Json) : TypeTree.Holds (.word .any) value
  | anyObject (entries : List (String × Json)) : TypeTree.Holds (.word .object) (.object entries)
  | null : TypeTree.Holds (.word .null) .null
  | true : TypeTree.Holds (.word .true) (.bool true)
  | false : TypeTree.Holds (.word .false) (.bool false)
  | number (n : ℕ) : TypeTree.Holds (.number n) (.number n)
  | text (s : String) : TypeTree.Holds (.text s) (.string s)
  | array {item : List TypeTree} {values : List Json}
      (inside : ∀ value ∈ values, AnyHolds item value) :
      TypeTree.Holds (.array item) (.array values)
  /-- Only optional members may be missing, and there are no other entries than those of members. -/
  | object {members : List (String × Bool × List TypeTree)} {entries : List (String × Json)}
      (there : ∀ name type, (name, Bool.false, type) ∈ members → name ∈ entries.map (·.1))
      (inside : ∀ entry ∈ entries, EntryHolds members entry) :
      TypeTree.Holds (.object members) (.object entries)

/-- A value of one of several alternatives. -/
inductive AnyHolds : List TypeTree → Json → Prop where
  | intro {type : List TypeTree} {alternative : TypeTree} {value : Json} (mem : alternative ∈ type)
      (holds : TypeTree.Holds alternative value) : AnyHolds type value

/-- An entry under the name of a member has a value of the type of that member. -/
inductive EntryHolds : List (String × Bool × List TypeTree) → String × Json → Prop where
  | intro {members : List (String × Bool × List TypeTree)} {name : String} {isOptional : Bool}
      {type : List TypeTree} {value : Json} (mem : (name, isOptional, type) ∈ members)
      (holds : AnyHolds type value) : EntryHolds members (name, value)

end

/-- A value of the type that a text spells. -/
def IsMember (text : String) (value : Json) : Prop :=
  ∃ type : TypeSyntax, type.Spells text ∧ AnyHolds type.tree value

/-- As a text has one reading at most, it does not matter by which one membership is decided. -/
lemma isMember_iff {text : String} {type : TypeSyntax} (h : type.Spells text) (value : Json) :
    IsMember text value ↔ AnyHolds type.tree value := by
  constructor
  · rintro ⟨reading, hreading, hholds⟩
    rwa [TypeSyntax.eq_of_spells h hreading]
  · exact fun hholds => ⟨type, h, hholds⟩

/-- The text that declares a name for the type that another text spells. -/
inductive Style.Declares (name type : String) : Style → String → Prop where
  | interface : Style.Declares name type .interface ("interface " ++ name ++ " " ++ type)
  | typeAlias : Style.Declares name type .typeAlias ("type " ++ name ++ " = " ++ type)

end TypeScript

open TypeScript

/-! ## Values that fit -/

namespace MembersFit

variable {sampler : Sampler}

/-- A required member is there. -/
lemma mem_of_required : {fields : List (String × FieldSchema)} → {members : List (String × Json)} →
    MembersFit sampler fields members → ∀ field ∈ fields, field.2.required = true →
    field.1 ∈ members.map (·.1)
  | _, _, .nil, _, hf, _ => by simp at hf
  | _, _, .present _ others, field, hf, hr => by
    obtain rfl | hf := List.mem_cons.1 hf
    · simp
    · exact List.mem_cons_of_mem _ (others.mem_of_required field hf hr)
  | _, _, .missing optional others, field, hf, hr => by
    obtain rfl | hf := List.mem_cons.1 hf
    · simp [optional] at hr
    · exact others.mem_of_required field hf hr

/-- Each member fits the field of its name. -/
lemma exists_field : {fields : List (String × FieldSchema)} → {members : List (String × Json)} →
    MembersFit sampler fields members → ∀ member ∈ members,
    ∃ field, (member.1, field) ∈ fields ∧ field.Fits sampler member.2
  | _, _, .nil, _, hm => by simp at hm
  | _, _, .present fits others, member, hm => by
    obtain rfl | hm := List.mem_cons.1 hm
    · exact ⟨_, List.mem_cons_self, fits⟩
    · obtain ⟨field, hf, hfits⟩ := others.exists_field member hm
      exact ⟨field, List.mem_cons_of_mem _ hf, hfits⟩
  | _, _, .missing _ others, member, hm => by
    obtain ⟨field, hf, hfits⟩ := others.exists_field member hm
    exact ⟨field, List.mem_cons_of_mem _ hf, hfits⟩

end MembersFit

/-- A literal is a value of its own type. -/
lemma literalTree_holds (literal : Literal) : (literalTree literal).Holds literal.toJson := by
  cases literal with
  | null => exact .null
  | bool b =>
    cases b with
    | false => exact .false
    | true => exact .true
  | number n => exact .number n.toNat
  | string s => exact .text s

/-- A value that fits a field is one of the values of its type.

**Proof sketch.** Induction on the description. A literal is a value of its alternative; any other
value fits by the rule of the kind, and is a value of the alternative of the kind. -/
theorem FieldSchema.Fits.anyHolds {sampler : Sampler} {field : FieldSchema} {value : Json}
    (h : field.Fits sampler value) : AnyHolds field.typeTree value := by
  induction field using FieldSchema.induction generalizing value with
  | step field item member =>
    have hkind (hfree : field.isEnum = false) (hholds : field.kindTree.Holds value) :
        AnyHolds field.typeTree value := by
      rw [typeTree_of_kind hfree]
      exact .intro List.mem_cons_self hholds
    cases h with
    | @choice _ literals literal restricted mem =>
      rw [typeTree_of_choices restricted (List.ne_nil_of_mem mem)]
      exact .intro (List.mem_append_left _ (List.mem_map_of_mem mem)) (literalTree_holds literal)
    | string free kind _ => exact hkind free (by simpa only [kindTree, kind] using .string _)
    | number free kind _ => exact hkind free (by simpa only [kindTree, kind] using .anyNumber _)
    | boolean free kind b => exact hkind free (by simpa only [kindTree, kind] using .boolean b)
    | date free kind _ => exact hkind free (by simpa only [kindTree, kind] using .string _)
    | email free kind _ => exact hkind free (by simpa only [kindTree, kind] using .string _)
    | uuid free kind _ => exact hkind free (by simpa only [kindTree, kind] using .string _)
    | array free kind described _ inside =>
      refine hkind free ?_
      simp only [kindTree, kind, described, itemTree]
      exact .array fun v hv => item _ described (inside v hv)
    | bareArray free kind bare _ _ =>
      refine hkind free ?_
      simp only [kindTree, kind, bare, itemTree]
      exact .array fun v _ => .intro List.mem_cons_self (.any v)
    | object free kind described inside =>
      refine hkind free ?_
      simp only [kindTree, kind, described, fieldsTree, membersTree_eq_map]
      refine .object (fun name type hm => ?_) fun entry he => ?_
      · obtain ⟨⟨_, inner⟩, hf, heq⟩ := List.mem_map.1 hm
        simp only [Prod.mk.injEq, Bool.not_eq_false'] at heq
        obtain ⟨rfl, hrequired, -⟩ := heq
        exact inside.mem_of_required _ hf hrequired
      · obtain ⟨inner, hf, hfits⟩ := inside.exists_field entry he
        exact .intro (List.mem_map_of_mem hf) (member _ described _ hf hfits)
    | bareObject free kind bare =>
      refine hkind free ?_
      simp only [kindTree, kind, bare, fieldsTree]
      exact .anyObject []

/-! ## Samples -/

/-- The names of all members of a schema, at every depth, are words. -/
def Schema.HasIdentifiers (schema : Schema) : Prop :=
  (FieldSchema.ofObject schema).HasIdentifiers

/-- A value that fits a field is a value of the type that is written for it. -/
lemma FieldSchema.Fits.isMember {sampler : Sampler} {field : FieldSchema} {value : Json}
    (h : field.Fits sampler value) (hnames : field.HasIdentifiers) (options : EmitOptions)
    (level : ℕ) : IsMember (field.renderType options level) value := by
  obtain ⟨type, hspells, htree⟩ := exists_spells hnames options level
  exact (isMember_iff hspells value).2 (htree ▸ h.anyHolds)

/-- An object is written like a field with its members. -/
lemma Schema.renderObject_eq (schema : Schema) (options : EmitOptions) (level : ℕ) :
    schema.renderObject options level = (FieldSchema.ofObject schema).renderType options level :=
  rfl

/-- A declaration is one of the type of an object with the members of the schema. -/
lemma Schema.declares (schema : Schema) (options : EmitOptions) (style : Style) (name : String) :
    style.Declares name (schema.renderObject options 0)
      (schema.declaration options style name) := by
  rw [declaration, renderObject, String.ofList_append]
  cases style with
  | interface =>
    change Style.Declares _ _ _ (String.ofList ("interface ".toList ++ name.toList ++ " ".toList) ++
      _)
    rw [String.ofList_append, String.ofList_append, String.ofList_toList, String.ofList_toList,
      String.ofList_toList]
    exact .interface
  | typeAlias =>
    change Style.Declares _ _ _ (String.ofList ("type ".toList ++ name.toList ++ " = ".toList) ++ _)
    rw [String.ofList_append, String.ofList_append, String.ofList_toList, String.ofList_toList,
      String.ofList_toList]
    exact .typeAlias

/-- **Samples are values of the types that are written.** Whatever the settings, the present, the
words and the width of the indentation are, a field whose names are words yields a value of the type
that is written for it, and a schema an object of the type that its declaration gives a name to;
they fail only where the words run out. -/
theorem FieldSchema.samples_are_members (sampler : Sampler) (words : List UInt64)
    (options : EmitOptions) :
    (∀ field : FieldSchema, field.HasIdentifiers → ∀ level : ℕ,
      field.sample sampler words = .error .exhausted ∨
      ∃ value rest, field.sample sampler words = .ok (value, rest) ∧
        IsMember (field.renderType options level) value) ∧
    ∀ schema : Schema, schema.HasIdentifiers → ∀ (style : Style) (name : String),
      schema.sample sampler words = .error .exhausted ∨
      ∃ members rest, schema.sample sampler words = .ok (.object members, rest) ∧
        style.Declares name (schema.renderObject options 0)
          (schema.declaration options style name) ∧
        IsMember (schema.renderObject options 0) (.object members) := by
  constructor
  · intro field hnames level
    obtain h | ⟨value, rest, h, hfits⟩ := field.yields_sample sampler words
    · exact .inl h
    · exact .inr ⟨value, rest, h, hfits.isMember hnames options level⟩
  · intro schema hnames style name
    obtain h | ⟨_, rest, h, members, rfl, hm⟩ := Schema.yields_sample sampler schema words
    · exact .inl h
    · have hfits : (FieldSchema.ofObject schema).Fits sampler (.object members) :=
        .object rfl rfl rfl hm
      refine .inr ⟨members, rest, h, schema.declares options style name, ?_⟩
      rw [Schema.renderObject_eq]
      exact hfits.isMember hnames options 0

/-! ### A sample of a post -/

namespace FieldSchema.Post

/-- Titles of three letters and two tags, at the beginning of 2020. -/
def sampler : Sampler :=
  { options := { (default : SampleOptions) with stringLength := (3, 3), arrayLength := (2, 2) },
    now := { Instant.epoch with second := 1577836800, covered := by decide } }

/-- Words for a length, three letters, whether there are tags, how many, and which ones. -/
def words : List UInt64 :=
  [0, 0xDE00000000000000, 0x1400000000000000, 0, 0, 0, 0x80000000, 0]

/-- The members of a sample. -/
def sampled : List (String × Json) :=
  [("title", .string "Tea"), ("tags", .array [.string "it's", .string "a | b"])]

end FieldSchema.Post

open FieldSchema in
/-- The sample has the type that its declaration says. -/
theorem FieldSchema.samples_are_members_post :
    Schema.HasIdentifiers Post.members ∧
    Schema.sample Post.sampler Post.members Post.words = .ok (.object Post.sampled, []) ∧
    Style.Declares "Post" Post.text .interface
      (Schema.declaration {} .interface "Post" Post.members) ∧
    IsMember Post.text (.object Post.sampled) := by
  have hsample : Schema.sample Post.sampler Post.members Post.words =
      .ok (.object Post.sampled, []) := by rfl
  have htext : Schema.renderObject {} Post.members 0 = Post.text := by rfl
  obtain ⟨-, members⟩ := samples_are_members Post.sampler Post.words {}
  obtain h | ⟨_, _, h, hdeclares, hm⟩ := members Post.members Post.hasIdentifiers .interface "Post"
  · rw [hsample] at h
    cases h
  · rw [hsample] at h
    cases h
    rw [htext] at hdeclares hm
    exact ⟨Post.hasIdentifiers, hsample, hdeclares, hm⟩

end ModelSchema
