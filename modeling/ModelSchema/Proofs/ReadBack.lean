import Mathlib.Data.List.Forall2
import Mathlib.Tactic.Tauto
import ModelSchema.Form
import ModelSchema.Outputs
import ModelSchema.Proofs.SchemaReading
import ModelSchema.Proofs.Validity

set_option autoImplicit false

/-!
# Compiled schemas read back

The schema of a document is written as JSON, and reading that text gives the schema back. The one
thing that is lost is a default that is the literal null: it is read as no default, and then the
form starts with something else, unless the field may be null.

## Main definitions

* `FieldSchema.HasNoNullDefault`, `Schema.HasNoNullDefault` — no default is the literal null.
* `FieldSchema.HasNullableNullDefaults` — no default is the literal null but those of fields that
  may be null.

## Main results

* `Catalog.hasDistinctNames` — no object of an expanded model has two members of one name.
* `FieldSchema.withoutNullDefaults_eq_self_iff` — which fields are read back as they were.
* `Schema.form_withoutNullDefaults` — which forms do not change.
* `Compilation.schema_reads_back` — the schema of a document is read back without the defaults that
  are null.
* `Compilation.null_default_is_lost` — such a default is lost.
-/

namespace ModelSchema

/-! ## Distinct names -/

/-- A description of a kind alone has no names. -/
lemma FieldSchema.hasDistinctNames_ofKind (kind : FieldKind) :
    (FieldSchema.ofKind kind).HasDistinctNames :=
  everywhere_of_bare (fun _ h => (by cases h)) rfl rfl

namespace Catalog

variable {catalog : Catalog} {path : List String} {model : Model}

/-- A settled field has distinct names if its base has them. -/
lemma hasDistinctNames_settle {field : Field} {base schema : FieldSchema}
    (h : field.settle base = .ok schema) (hbase : base.HasDistinctNames) :
    schema.HasDistinctNames := by
  obtain ⟨-, -, -, hitem, hfields⟩ := Field.settle_shape h
  obtain ⟨hnodup, hinside, hmembers⟩ := FieldSchema.everywhere_iff.1 hbase
  refine FieldSchema.everywhere_iff.2 ?_
  rw [hitem, hfields]
  unfold Field.describe
  split
  · refine ⟨fun _ h => (by cases h), fun inner h => ?_, fun _ h => (by cases h)⟩
    cases h
    exact FieldSchema.everywhere_iff.2 ⟨hnodup, hinside, hmembers⟩
  · exact ⟨hnodup, hinside, hmembers⟩

/-- No object of an expanded model has two members of one name.

**Proof sketch.** Induction over paths. The members of a model are under the names of its fields,
which are distinct, and what stands for a reference is the result of an expansion at the end of a
longer path. -/
theorem hasDistinctNames (h : catalog.IsPath path model) {schema : Schema}
    (hs : (catalog.expandFrom path model).outcome = .ok schema) : schema.HasDistinctNames := by
  induction h using IsPath.induction generalizing schema with
  | step path model h ih =>
    refine FieldSchema.everywhere_ofObject.2 ⟨?_, ?_⟩
    · rintro _ ⟨⟩
      have hnames : Entries.names schema = model.fields.map Field.name :=
        Outcome.map_eq_map_iff_forall₂.2 ((expandFrom_eq_ok.1 hs).flip.imp fun _ _ hentry =>
          hentry.1)
      rw [hnames]
      exact catalog.wellDeclared.fieldNames model h.mem
    · intro entry hentry
      obtain ⟨field, hf, -, hmember⟩ := exists_field_of_mem hs hentry
      cases hb : field.type.base with
      | primitive kind =>
        rw [member_of_primitive hb] at hmember
        exact hasDistinctNames_settle hmember (FieldSchema.hasDistinctNames_ofKind kind)
      | model name =>
        obtain ⟨next, members, hn, hnext, hmembers, hsettle⟩ := exists_of_member h hf hb hmember
        exact hasDistinctNames_settle hsettle
          (ih field hf name next hb hn hnext (h.snoc hf hb hn hnext) hmembers)

end Catalog

/-- No object of a compiled schema has two members of one name. -/
lemma Compilation.hasDistinctNames {text : String} {options : CompileOptions}
    {compilation : Compilation} (h : compile text options = .ok compilation) :
    compilation.schema.HasDistinctNames := by
  obtain ⟨-, catalog, -, root, hroot, -, hs⟩ := exists_of_compile h
  rw [Catalog.resolve_eq] at hs
  exact Catalog.hasDistinctNames (Catalog.IsPath.single hroot) hs

/-! ## Defaults that are the literal null -/

namespace FieldSchema

/-- No default is the literal null, at any depth. -/
def HasNoNullDefault (field : FieldSchema) : Prop :=
  field.Everywhere fun inner => inner.initial ≠ some .null

/-- No default is the literal null, at any depth, but those of fields that may be null. -/
def HasNullableNullDefaults (field : FieldSchema) : Prop :=
  field.Everywhere fun inner => inner.initial = some .null → inner.nullable = true

end FieldSchema

namespace Schema

/-- No default of a schema is the literal null, at any depth. -/
def HasNoNullDefault (schema : Schema) : Prop :=
  (FieldSchema.ofObject schema).HasNoNullDefault

/-- No default of a schema is the literal null, at any depth, but those of fields that may be
null. -/
def HasNullableNullDefaults (schema : Schema) : Prop :=
  (FieldSchema.ofObject schema).HasNullableNullDefaults

end Schema

/-- A schema stays as it is when its members do. -/
lemma Schema.withoutNullDefaults_eq_iff_forall {schema : Schema} :
    schema.withoutNullDefaults = schema ↔
      ∀ member ∈ schema, member.2.withoutNullDefaults = member.2 := by
  rw [withoutNullDefaults, membersWithoutNullDefaults_eq_map]
  induction schema with
  | nil => simp
  | cons member schema ih =>
    obtain ⟨name, field⟩ := member
    simp [ih]

/-- A field is read back as it was exactly when no default is the literal null. -/
theorem FieldSchema.withoutNullDefaults_eq_self_iff {field : FieldSchema} :
    field.withoutNullDefaults = field ↔ field.HasNoNullDefault := by
  induction field using FieldSchema.induction with
  | step field item member =>
    have hparts : field.withoutNullDefaults = field ↔
        field.item.map withoutNullDefaults = field.item ∧
        field.fields.map Schema.withoutNullDefaults = field.fields ∧
        field.initial.filter (· ≠ .null) = field.initial := by
      rw [withoutNullDefaults_eq]
      cases field
      simp
    have hinitial : field.initial.filter (· ≠ .null) = field.initial ↔
        field.initial ≠ some .null := by
      cases field.initial with
      | none => simp
      | some literal => cases literal <;> simp
    have hitem : field.item.map withoutNullDefaults = field.item ↔
        ∀ inner, field.item = some inner → inner.HasNoNullDefault := by
      cases hi : field.item with
      | none => simp
      | some inner => simpa using item inner hi
    have hfields : field.fields.map Schema.withoutNullDefaults = field.fields ↔
        ∀ fields, field.fields = some fields → ∀ m ∈ fields, m.2.HasNoNullDefault := by
      cases hf : field.fields with
      | none => simp
      | some fields =>
        simp only [Option.map_some, Option.some.injEq, Schema.withoutNullDefaults_eq_iff_forall,
          forall_eq']
        exact forall₂_congr fun m hm => member fields hf m hm
    rw [hparts, hinitial, hitem, hfields, HasNoNullDefault, everywhere_iff]
    tauto

/-- A schema is read back as it was exactly when no default is the literal null. -/
theorem Schema.withoutNullDefaults_eq_self_iff {schema : Schema} :
    schema.withoutNullDefaults = schema ↔ schema.HasNoNullDefault := by
  rw [HasNoNullDefault, ← FieldSchema.withoutNullDefaults_eq_self_iff]
  constructor
  · intro h
    change FieldSchema.ofObject schema.withoutNullDefaults = _
    rw [h]
  · intro h
    exact Option.some.inj (congrArg FieldSchema.fields h)

/-! ## Forms -/

section Forms

variable (now : Instant)

/-- The entries of members, one by one. -/
lemma entriesForm_eq_map (fields : List (String × FieldSchema)) :
    entriesForm now fields = fields.map fun field => (field.1, field.2.form now) := by
  induction fields with
  | nil => rfl
  | cons field fields ih => rw [entriesForm, List.map_cons, ih]

/-- The entries of an element are those of its members. -/
lemma itemForm_eq_bind (item : Option FieldSchema) :
    itemForm now item = item.bind fun item => fieldsForm now item.fields := by
  cases item with
  | none => rfl
  | some item => cases item; rfl

namespace FieldSchema

/-- The entries below the entry of a field: those of its members, or of the members of its
element. -/
def childrenForm (field : FieldSchema) : Option Form :=
  match field.kind with
  | .object => fieldsForm now field.fields
  | .array => itemForm now field.item
  | _ => none

/-- The entry of a field, attribute by attribute. -/
lemma form_eq (field : FieldSchema) : field.form now =
    { isShown := !field.hidden
      initial := field.blank now
      isRequired := field.marked
      children := field.childrenForm now } := by
  cases field
  rfl

/-- A default that is null and one that is missing are the same to a field that may be null. -/
lemma blank_withoutNullDefaults {field : FieldSchema}
    (h : field.initial = some .null → field.nullable = true) :
    field.withoutNullDefaults.blank now = field.blank now := by
  rw [withoutNullDefaults_eq, blank, blank]
  cases hi : field.initial with
  | none => rfl
  | some literal =>
    cases literal with
    | null => simp [h hi, Literal.toJson, Option.filter]
    | _ => rfl

/-- The form of a field is not changed if what it starts with and the entries below it are not. -/
lemma form_withoutNullDefaults_of_children {field : FieldSchema}
    (hblank : field.initial = some .null → field.nullable = true)
    (hfields : fieldsForm now field.withoutNullDefaults.fields = fieldsForm now field.fields)
    (hitem : itemForm now field.withoutNullDefaults.item = itemForm now field.item) :
    field.withoutNullDefaults.form now = field.form now := by
  rw [form_eq, form_eq, blank_withoutNullDefaults now hblank, childrenForm, childrenForm, hfields,
    hitem, withoutNullDefaults_eq]

/-- The entries below a field, be it an object or an array, are not changed by leaving out defaults
that are null, as long as the fields with such a default may be null.

**Proof sketch.** Induction on the description. The form of a member depends on its own members and
on those of its element; that of an element is never asked for, only those of its members. -/
lemma childrenForm_withoutNullDefaults {field : FieldSchema} (h : field.HasNullableNullDefaults) :
    fieldsForm now field.withoutNullDefaults.fields = fieldsForm now field.fields ∧
      itemForm now field.withoutNullDefaults.item = itemForm now field.item := by
  induction field using FieldSchema.induction with
  | step field item member =>
    obtain ⟨-, hitem, hmembers⟩ := everywhere_iff.1 h
    rw [withoutNullDefaults_eq]
    constructor
    · cases hf : field.fields with
      | none => rfl
      | some fields =>
        rw [Option.map_some, fieldsForm, fieldsForm, Schema.withoutNullDefaults,
          membersWithoutNullDefaults_eq_map, entriesForm_eq_map, entriesForm_eq_map, List.map_map,
          Option.some.injEq, List.map_inj_left]
        intro m hm
        have hinner := hmembers fields hf m hm
        obtain ⟨hfields, hitem⟩ := member fields hf m hm hinner
        have hform :=
          form_withoutNullDefaults_of_children now (everywhere_iff.1 hinner).1 hfields hitem
        exact congrArg (m.1, ·) hform
    · cases hi : field.item with
      | none => rfl
      | some inner =>
        rw [Option.map_some, itemForm_eq_bind, itemForm_eq_bind]
        exact (item inner hi (hitem inner hi)).1

end FieldSchema

/-- The form of a schema is not changed by leaving out defaults that are null, as long as the fields
with such a default may be null. -/
theorem Schema.form_withoutNullDefaults {schema : Schema} (h : schema.HasNullableNullDefaults) :
    schema.withoutNullDefaults.form now = schema.form now :=
  Option.some.inj (FieldSchema.childrenForm_withoutNullDefaults now h).1

end Forms

/-! ## Compiled schemas -/

/-- A schema is read back from its JSON, be that indented or not. -/
lemma Schema.ofText?_toJson {schema : Schema} (hnames : schema.HasDistinctNames)
    (hdepth : schema.toJson.depth ≤ Json.nestingLimit) :
    Schema.ofText? schema.toJson.compact = some schema.withoutNullDefaults ∧
      Schema.ofText? schema.toJson.pretty = some schema.withoutNullDefaults := by
  have hread := Schema.ofTree?_toJson hnames hdepth
  rw [ofText?, ofText?, Json.Tree.ofText?_compact, Json.Tree.ofText?_pretty, Option.bind_some]
  exact ⟨hread, hread⟩

namespace Compilation

/-- **A compiled schema is read back.** Reading the JSON of the schema of a document, indented or
not, gives the schema without the defaults that are the literal null. These apart nothing is lost;
and the forms are the same as long as every field with such a default may be null. -/
theorem schema_reads_back (text : String) (options : CompileOptions) (compilation : Compilation)
    (h : compile text options = .ok compilation)
    (hdepth : compilation.schema.toJson.depth ≤ Json.nestingLimit) :
    (Schema.ofText? compilation.schema.toJson.compact =
      some compilation.schema.withoutNullDefaults ∧
      Schema.ofText? compilation.schema.toJson.pretty =
        some compilation.schema.withoutNullDefaults) ∧
    (options = {} → schemaText text = .ok compilation.schema.toJson.pretty) ∧
    (compilation.schema.withoutNullDefaults = compilation.schema ↔
      compilation.schema.HasNoNullDefault) ∧
    (compilation.schema.HasNullableNullDefaults → ∀ now,
      compilation.schema.withoutNullDefaults.form now = compilation.schema.form now) := by
  refine ⟨Schema.ofText?_toJson (hasDistinctNames h) hdepth, ?_,
    Schema.withoutNullDefaults_eq_self_iff, ?_⟩
  · rintro rfl
    rw [schemaText, compileSchema, h]
    rfl
  · exact fun hnullable now => Schema.form_withoutNullDefaults now hnullable

/-! ### Defaults that are null -/

/-- A document in which a field that may be null has null as its default, beside other defaults. -/
def profileText : String :=
  "model User \x7b id: number | null @value(null); " ++
    "role?: \"admin\" | \"user\" @value(\"user\"); \x7d"

/-- The schema of that document. -/
def profileSchema : Schema :=
  [("id", { kind := .number, required := true, nullable := true, initial := some .null }),
    ("role",
      { kind := .string, choices := some [.string "admin", .string "user"],
        initial := some (.string "user") })]

/-- The default that is null is not read back, but the form is the same. -/
theorem schema_reads_back_profile : ∃ compilation, compile profileText {} = .ok compilation ∧
    compilation.schema = profileSchema ∧ profileSchema.toJson.depth ≤ Json.nestingLimit ∧
    schemaText profileText = .ok profileSchema.toJson.pretty ∧
    Schema.ofText? profileSchema.toJson.pretty = some profileSchema.withoutNullDefaults ∧
    profileSchema.withoutNullDefaults ≠ profileSchema ∧
    ∀ now, profileSchema.withoutNullDefaults.form now = profileSchema.form now := by
  have hschema : compileSchema profileText {} = .ok profileSchema := by decide +kernel
  obtain ⟨compilation, h, hs⟩ := Outcome.map_eq_ok.1 hschema
  have hdepth : profileSchema.toJson.depth ≤ Json.nestingLimit := by decide
  have hnullable : profileSchema.HasNullableNullDefaults := by
    refine FieldSchema.everywhere_ofObject.2 ⟨fun h => (by cases h), fun member hm => ?_⟩
    simp only [profileSchema, List.mem_cons, List.not_mem_nil, or_false] at hm
    obtain rfl | rfl := hm
    · exact FieldSchema.everywhere_of_bare (fun _ => rfl) rfl rfl
    · exact FieldSchema.everywhere_of_bare (fun h => (by cases h)) rfl rfl
  have hchanged : profileSchema.withoutNullDefaults ≠ profileSchema := by
    rintro ⟨⟩
  obtain ⟨⟨-, hpretty⟩, hprinted, -, hform⟩ :=
    schema_reads_back profileText {} compilation h (hs ▸ hdepth)
  rw [hs] at hpretty hprinted hform
  exact ⟨compilation, h, hs, hdepth, hprinted rfl, hpretty, hchanged, hform hnullable⟩

/-- A document in which the default of a text is null. -/
def nullDefaultText : String :=
  "model A \x7b a: string @value(null); \x7d"

/-- The schema of that document. -/
def nullDefaultSchema : Schema :=
  [("a", { kind := .string, required := true, initial := some .null })]

/-- The default of that text is lost, although it is written: the schema that is read back is not
the schema of the document, and the forms of the two differ at every instant. -/
theorem null_default_is_lost : ∃ compilation decoded, compile nullDefaultText {} = .ok compilation ∧
    compilation.schema.toJson.depth ≤ Json.nestingLimit ∧
    Schema.ofText? compilation.schema.toJson.compact = some decoded ∧ decoded ≠ compilation.schema ∧
    ∀ now, decoded.form now ≠ compilation.schema.form now := by
  have hschema : compileSchema nullDefaultText {} = .ok nullDefaultSchema := by decide +kernel
  obtain ⟨compilation, h, hs⟩ := Outcome.map_eq_ok.1 hschema
  have hdepth : nullDefaultSchema.toJson.depth ≤ Json.nestingLimit := by decide
  have hnames := hasDistinctNames h
  refine ⟨compilation, [("a", { kind := .string, required := true })], h, ?_⟩
  rw [hs] at hnames ⊢
  refine ⟨hdepth, (Schema.ofText?_toJson hnames hdepth).1, ?_, fun now => ?_⟩
  · rintro ⟨⟩
  · rintro ⟨⟩

end Compilation

end ModelSchema
