import ModelSchema.Proofs.Inside
import ModelSchema.Proofs.Records
import ModelSchema.Schema.Decode
import ModelSchema.Schema.Encode

set_option autoImplicit false

/-!
# Reading written schemas back

A schema is written as JSON and read back as it was, except that a default that is the literal null
is read as no default.

## Main definitions

* `FieldSchema.HasDistinctNames`, `Schema.HasDistinctNames` — no object has two members of one name.
* `FieldSchema.withoutNullDefaults`, `Schema.withoutNullDefaults` — what is read back.

## Main results

* `FieldSchema.depth_toJson_le_iff`, `Schema.depth_toJson_le_iff` — what room a written field or
  schema needs.
* `FieldSchema.ofTree?_toJson`, `Schema.ofTree?_toJson` — what a written field and a written schema
  are read as.
-/

namespace ModelSchema

open Json (Tree)

/-! ## What is read back -/

mutual

/-- A field without the defaults that are the literal null, at every depth. -/
def FieldSchema.withoutNullDefaults : FieldSchema → FieldSchema
  | { kind, required, min, max, choices, item, fields, nullable, hidden, marked, initial } =>
    { kind, required, min, max, choices, nullable, hidden, marked
      item := itemWithoutNullDefaults item
      fields := fieldsWithoutNullDefaults fields
      initial := initial.filter (· ≠ .null) }

/-- An element without the defaults that are the literal null. -/
def itemWithoutNullDefaults : Option FieldSchema → Option FieldSchema
  | none => none
  | some item => some item.withoutNullDefaults

/-- The members of an object, if they are described, without the defaults that are the literal
null. -/
def fieldsWithoutNullDefaults :
    Option (List (String × FieldSchema)) → Option (List (String × FieldSchema))
  | none => none
  | some fields => some (membersWithoutNullDefaults fields)

/-- Members without the defaults that are the literal null. -/
def membersWithoutNullDefaults : List (String × FieldSchema) → List (String × FieldSchema)
  | [] => []
  | (name, field) :: fields =>
    (name, field.withoutNullDefaults) :: membersWithoutNullDefaults fields

end

/-- A schema without the defaults that are the literal null, at every depth. -/
def Schema.withoutNullDefaults (schema : Schema) : Schema :=
  membersWithoutNullDefaults schema

/-- No object has two members of one name, at any depth. -/
def FieldSchema.HasDistinctNames (field : FieldSchema) : Prop :=
  field.Everywhere fun inner => ∀ fields, inner.fields = some fields → (Entries.names fields).Nodup

/-- No object has two members of one name, at any depth, and the schema itself has not. -/
def Schema.HasDistinctNames (schema : Schema) : Prop :=
  (FieldSchema.ofObject schema).HasDistinctNames

/-- Members without defaults that are null, one by one. -/
lemma membersWithoutNullDefaults_eq_map (fields : List (String × FieldSchema)) :
    membersWithoutNullDefaults fields =
      fields.map fun field => (field.1, field.2.withoutNullDefaults) := by
  induction fields with
  | nil => rfl
  | cons field fields ih => rw [membersWithoutNullDefaults, List.map_cons, ih]

/-- An element is written if there is one. -/
lemma itemJson_eq_map (item : Option FieldSchema) :
    itemJson item = item.map FieldSchema.toJson := by
  cases item <;> rfl

/-- Members are written one by one. -/
lemma memberJsons_eq_map (fields : List (String × FieldSchema)) :
    memberJsons fields = fields.map fun field => (field.1, field.2.toJson) := by
  induction fields with
  | nil => rfl
  | cons field fields ih => rw [memberJsons, List.map_cons, ih]

/-- Members are written if they are described. -/
lemma fieldsJson_eq_map (fields : Option (List (String × FieldSchema))) :
    fieldsJson fields = fields.map Schema.toJson := by
  cases fields <;> rfl

/-- A written schema is one object deeper than its members. -/
lemma Schema.depth_toJson_le_iff {schema : Schema} {n : ℕ} :
    schema.toJson.depth ≤ n + 1 ↔ ∀ member ∈ schema, member.2.toJson.depth ≤ n := by
  rw [toJson, Json.depth, Nat.add_le_add_iff_right, Json.membersDepth_le_iff, memberJsons_eq_map,
    List.forall_mem_map]

/-! ## Parts of a field -/

/-- A literal is read as what it is written from. -/
lemma Literal.ofTree?_toJson (literal : Literal) :
    Literal.ofTree? literal.toJson.tree = some literal := by
  cases literal with
  | number n =>
    change (Json.numeral n.toNat).word?.map Literal.number = _
    rw [Json.word?_numeral]
    rfl
  | _ => rfl

/-- Literals are read as what they are written from, where there is room for an array. -/
lemma literals?_toJson {room : ℕ} (h : room ≠ 0) (values : List Literal) :
    literals? room (Json.array (values.map Literal.toJson)).tree = some values := by
  rw [Json.tree, literals?, if_neg h, Json.itemTrees_eq_map]
  induction values with
  | nil => rfl
  | cons value values ih =>
    rw [List.map_cons, List.map_cons, List.mapM_cons, Literal.ofTree?_toJson, ih]
    rfl

/-- A literal that is not null is read back, and null is read as none. -/
lemma Literal.optional?_ofTree? (literal : Literal) :
    Tree.optional? Literal.ofTree? literal.toJson.tree =
      some ((some literal).filter (· ≠ .null)) := by
  cases literal with
  | null => rfl
  | bool b => rfl
  | number n =>
    rw [Json.optional?_of_ne_null (by nofun), ofTree?_toJson]
    rfl
  | string s => rfl

/-- A literal has no depth. -/
lemma Literal.depth_toJson (literal : Literal) : literal.toJson.depth = 0 := by
  cases literal <;> rfl

/-- Literals have no depth. -/
lemma Literal.itemsDepth_toJson (values : List Literal) :
    Json.itemsDepth (values.map Literal.toJson) = 0 := by
  induction values with
  | nil => rfl
  | cons value values ih => rw [List.map_cons, Json.itemsDepth, ih, depth_toJson, Nat.max_self]

/-- A kind is read from its name. -/
lemma FieldKind.ofTree?_name (room : ℕ) (kind : FieldKind) :
    FieldKind.ofTree? room (Json.string kind.name).tree = some kind :=
  FieldKind.ofName?_eq_some_iff.2 rfl

/-- A word is read from its number. -/
lemma word?_number (n : UInt64) : (Json.number n.toNat).tree.word? = some n :=
  Json.word?_numeral n

/-! ## Fields -/

namespace FieldSchema

/-- The members that a field is written with, some of which are left out. -/
def members (field : FieldSchema) : List (Option (String × Json)) :=
  [Json.always "type" (.string field.kind.name),
    Json.always "required" (.bool field.required),
    Json.present "min" (field.min.map fun n => .number n.toNat),
    Json.present "max" (field.max.map fun n => .number n.toNat),
    Json.present "enum" (field.choices.map fun values => .array (values.map Literal.toJson)),
    Json.present "itemType" (field.item.map FieldSchema.toJson),
    Json.present "fields" (field.fields.map Schema.toJson),
    Json.flag "nullable" field.nullable,
    Json.flag "hidden" field.hidden,
    Json.flag "requiredMarker" field.marked,
    Json.present "default" (field.initial.map Literal.toJson)]

/-- A field is written as an object of its members. -/
lemma toJson_eq (field : FieldSchema) : field.toJson = Json.objectOf field.members := by
  cases field
  rw [toJson, members, itemJson_eq_map, fieldsJson_eq_map]

/-- The members of a field stand under the names of its parts. -/
lemma forall₂_members (field : FieldSchema) : List.Forall₂ Json.Under partNames field.members := by
  unfold partNames members
  refine .cons (Json.under_always _ _) (.cons (Json.under_always _ _) ?_)
  refine .cons (Json.under_present _ _) (.cons (Json.under_present _ _) ?_)
  refine .cons (Json.under_present _ _)
    (.cons (Json.under_present _ _) (.cons (Json.under_present _ _) ?_))
  refine .cons (Json.under_flag _ _) (.cons (Json.under_flag _ _) (.cons (Json.under_flag _ _) ?_))
  exact .cons (Json.under_present _ _) .nil

/-- No two parts of a field have the same name. -/
lemma nodup_partNames : partNames.Nodup := by
  decide

/-- Without defaults that are null, only the element, the members and the default change. -/
lemma withoutNullDefaults_eq (field : FieldSchema) : field.withoutNullDefaults =
    { field with
      item := field.item.map withoutNullDefaults
      fields := field.fields.map Schema.withoutNullDefaults
      initial := field.initial.filter (· ≠ .null) } := by
  obtain ⟨_, _, _, _, _, item, fields, _, _, _, _⟩ := field
  cases item <;> cases fields <;> rfl

/-- What room a written field needs inside its own object: some for its literals, and that of its
element and of its members. -/
lemma depth_toJson_le_iff {field : FieldSchema} {n : ℕ} :
    field.toJson.depth ≤ n + 1 ↔ (field.choices ≠ none → n ≠ 0) ∧
      (∀ item, field.item = some item → item.toJson.depth ≤ n) ∧
      ∀ fields, field.fields = some fields → (Schema.toJson fields).depth ≤ n := by
  have hchoices : (∀ values, field.choices = some values → 1 ≤ n) ↔
      (field.choices ≠ none → n ≠ 0) := by
    cases field.choices <;> simp [Nat.one_le_iff_ne_zero]
  rw [toJson_eq, Json.depth_objectOf_le_iff, ← hchoices]
  simp [members, Json.within_always_iff, Json.within_present_iff, Json.within_flag, Json.depth,
    Literal.itemsDepth_toJson, Literal.depth_toJson]

section Parts

variable (field : FieldSchema) {room : ℕ}

/-- The parts that a written field has. -/
abbrev parts : List (String × Tree) :=
  Json.parts field.members

/-- The kind is read back. -/
lemma part?_kind : Tree.part? field.parts "type" none (FieldKind.ofTree? room) = some field.kind :=
  (Json.part?_always field.forall₂_members nodup_partNames (i := 0) rfl rfl _ _).trans
    (FieldKind.ofTree?_name room field.kind)

/-- Whether the field is required is read back. -/
lemma part?_required :
    Tree.part? field.parts "required" (some false) Tree.bool? = some field.required :=
  Json.part?_always field.forall₂_members nodup_partNames (i := 1) rfl rfl _ _

/-- The lower bound is read back. -/
lemma part?_min :
    Tree.part? field.parts "min" (some none) (Tree.optional? Tree.word?) = some field.min := by
  simpa using Json.part?_present field.forall₂_members nodup_partNames (i := 2) rfl rfl nofun
    fun n _ => word?_number n

/-- The upper bound is read back. -/
lemma part?_max :
    Tree.part? field.parts "max" (some none) (Tree.optional? Tree.word?) = some field.max := by
  simpa using Json.part?_present field.forall₂_members nodup_partNames (i := 3) rfl rfl nofun
    fun n _ => word?_number n

/-- The literals are read back, where there is room for their array. -/
lemma part?_choices (h : field.choices ≠ none → room ≠ 0) :
    Tree.part? field.parts "enum" (some none) (Tree.optional? (literals? room)) =
      some field.choices := by
  simpa using Json.part?_present field.forall₂_members nodup_partNames (i := 4) rfl rfl nofun
    fun values hvalues => literals?_toJson (h (by simp [hvalues])) values

/-- The element is read back if it is read from what it is written as. -/
lemma part?_item (h : ∀ item, field.item = some item →
      ofTree? room item.toJson.tree = some item.withoutNullDefaults) :
    Tree.part? field.parts "itemType" (some none) (Tree.optional? (ofTree? room)) =
      some (field.item.map withoutNullDefaults) := by
  have hnull (item : FieldSchema) : item.toJson.tree ≠ .null := by rw [toJson_eq]; nofun
  exact Json.part?_present field.forall₂_members nodup_partNames (i := 5) rfl rfl hnull h

/-- The members are read back if they are read from what they are written as. -/
lemma part?_fields (h : ∀ fields, field.fields = some fields →
      Schema.ofTree? room (Schema.toJson fields).tree = some (Schema.withoutNullDefaults fields)) :
    Tree.part? field.parts "fields" (some none) (Tree.optional? (Schema.ofTree? room)) =
      some (field.fields.map Schema.withoutNullDefaults) :=
  Json.part?_present field.forall₂_members nodup_partNames (i := 6) rfl rfl nofun h

/-- Whether the field may be null is read back. -/
lemma part?_nullable :
    Tree.part? field.parts "nullable" (some false) Tree.bool? = some field.nullable :=
  Json.part?_flag field.forall₂_members nodup_partNames (i := 7) rfl rfl

/-- Whether the field is hidden is read back. -/
lemma part?_hidden : Tree.part? field.parts "hidden" (some false) Tree.bool? = some field.hidden :=
  Json.part?_flag field.forall₂_members nodup_partNames (i := 8) rfl rfl

/-- Whether the field is marked as required is read back. -/
lemma part?_marked :
    Tree.part? field.parts "requiredMarker" (some false) Tree.bool? = some field.marked :=
  Json.part?_flag field.forall₂_members nodup_partNames (i := 9) rfl rfl

/-- The literal null as a default is written like any other literal, but read as no default. -/
lemma part?_initial :
    Tree.part? field.parts "default" (some none) (Tree.optional? Literal.ofTree?) =
      some (field.initial.filter (· ≠ .null)) := by
  rw [Json.part?_parts field.forall₂_members nodup_partNames 10 rfl rfl]
  cases field.initial with
  | none => rfl
  | some literal => exact literal.optional?_ofTree?

/-- A field is read from what is read under the names of its parts. -/
lemma ofTree?_of_parts (hchoices : field.choices ≠ none → room ≠ 0)
    (hitem : ∀ item, field.item = some item →
      ofTree? room item.toJson.tree = some item.withoutNullDefaults)
    (hfields : ∀ fields, field.fields = some fields →
      Schema.ofTree? room (Schema.toJson fields).tree = some (Schema.withoutNullDefaults fields)) :
    ofTree? (room + 1) field.toJson.tree = some field.withoutNullDefaults := by
  have hrecord := Json.record?_objectOf field.forall₂_members nodup_partNames
  rw [toJson_eq, ofTree?, hrecord, withoutNullDefaults_eq]
  simp only [Option.bind_eq_bind, Option.bind_some, part?_kind, part?_required, part?_min,
    part?_max, part?_choices field hchoices, part?_item field hitem, part?_fields field hfields,
    part?_nullable, part?_hidden, part?_marked, part?_initial]

end Parts

/-- Members under distinct names are read one by one, each with less room than their object. -/
lemma ofTree?_of_members {room : ℕ} {fields : Schema} (hnodup : (Entries.names fields).Nodup)
    (hdepth : fields.toJson.depth ≤ room)
    (h : ∀ field ∈ fields, ∀ room, field.2.toJson.depth ≤ room →
      ofTree? room field.2.toJson.tree = some field.2.withoutNullDefaults) :
    Schema.ofTree? room fields.toJson.tree = some fields.withoutNullDefaults := by
  obtain ⟨room, rfl⟩ : ∃ r, room = r + 1 :=
    Nat.exists_eq_add_one_of_ne_zero (Nat.ne_zero_of_lt hdepth)
  have hinside := Schema.depth_toJson_le_iff.1 hdepth
  have hread := Json.members?_memberTrees fun field hf => h field hf room (hinside field hf)
  rw [← memberJsons_eq_map, ← membersWithoutNullDefaults_eq_map] at hread
  have hnames : (Entries.names (membersWithoutNullDefaults fields)).Nodup := by
    rwa [membersWithoutNullDefaults_eq_map, Entries.names, List.map_map]
  rw [Schema.toJson, Json.tree, Schema.ofTree?, hread, Option.map_some,
    Entries.ofList_of_nodup hnames]
  rfl

/-- A written field is read as the field without the defaults that are null, if no more arrays and
objects have to be opened than may be.

**Proof sketch.** Induction on the description. The element and the members are read by induction,
with less room, and a list of literals needs room for one array. -/
theorem ofTree?_toJson {field : FieldSchema} {room : ℕ} (hnames : field.HasDistinctNames)
    (hdepth : field.toJson.depth ≤ room) :
    ofTree? room field.toJson.tree = some field.withoutNullDefaults := by
  induction field using FieldSchema.induction generalizing room with
  | step field item member =>
    obtain ⟨hnodup, hitem, hmembers⟩ := everywhere_iff.1 hnames
    obtain ⟨room, rfl⟩ : ∃ r, room = r + 1 := by
      rw [toJson_eq] at hdepth
      exact Nat.exists_eq_add_one_of_ne_zero (Nat.ne_zero_of_lt hdepth)
    -- what is inside a part has to be read with less room
    obtain ⟨hchoices, hitemDepth, hfieldsDepth⟩ := depth_toJson_le_iff.1 hdepth
    refine ofTree?_of_parts field hchoices (fun inner hi => ?_) fun fields hf => ?_
    · exact item inner hi (hitem inner hi) (hitemDepth inner hi)
    · refine ofTree?_of_members (hnodup fields hf) (hfieldsDepth fields hf) fun m hm room hm' => ?_
      exact member fields hf m hm (hmembers fields hf m hm) hm'

end FieldSchema

/-- A written schema is read as the schema without the defaults that are null, if no more arrays and
objects have to be opened than may be. -/
theorem Schema.ofTree?_toJson {schema : Schema} {room : ℕ} (hnames : schema.HasDistinctNames)
    (hdepth : schema.toJson.depth ≤ room) :
    Schema.ofTree? room schema.toJson.tree = some schema.withoutNullDefaults := by
  obtain ⟨hnodup, hmembers⟩ := FieldSchema.everywhere_ofObject.1 hnames
  exact FieldSchema.ofTree?_of_members (hnodup schema rfl) hdepth fun field hf _ hle =>
    FieldSchema.ofTree?_toJson (hmembers field hf) hle

end ModelSchema
