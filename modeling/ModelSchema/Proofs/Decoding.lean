import ModelSchema.Proofs.ReadBack

set_option autoImplicit false

/-!
# Decoded schemas

A schema may be written in JSON in many ways: with its names in another order, with more names, with
nulls and flags that are not set, with members that are given twice. What is read from such a text
has one canonical form, the one in which this library writes it: reading that form gives the same
schema, and writing it once more the same text.

## Main definitions

* `FieldSchema.IsReadable`, `Schema.IsReadable` — what can be read within a number of arrays and
  objects.

## Main results

* `FieldSchema.exists_ofText?_iff`, `Schema.exists_ofText?_iff` — exactly the readable ones are read
  from a text.
* `Schema.ofText?_is_canonical` — what is read is read again from its own text, which is the same
  from then on.
-/

namespace ModelSchema

open Json (Tree)

/-! ## Parts that are read -/

namespace Json.Tree

variable {α : Type} {parts : List (String × Tree)} {name : String} {read? : Tree → Option α} {a : α}

/-- A part that may be null is there because something else than null is. -/
lemma exists_of_part?_optional?
    (h : part? parts name (some none) (optional? read?) = some (some a)) :
    ∃ value, value ≠ .null ∧ read? value = some a := by
  unfold part? at h
  split at h
  · next part _ =>
    unfold optional? at h
    split at h
    · cases h
    · next hnull =>
      obtain ⟨_, hread, he⟩ := Option.map_eq_some_iff.1 h
      cases he
      exact ⟨part.2, hnull, hread⟩
  · cases h

/-- Every member that is read is read from some value. -/
lemma exists_of_mem_members? {members : List (Option String × Tree)} {entries : List (String × α)}
    (h : members? read? members = some entries) {entry : String × α} (he : entry ∈ entries) :
    ∃ value, read? value = some entry.2 := by
  fun_induction members? read? members generalizing entries with
  | case1 =>
    cases h
    cases he
  | case2 => cases h
  | case3 name value members ih =>
    obtain ⟨a, ha, h⟩ := Option.bind_eq_some_iff.1 h
    obtain ⟨rest, hrest, rfl⟩ := Option.map_eq_some_iff.1 h
    rcases List.mem_cons.1 he with rfl | he
    · exact ⟨value, ha⟩
    · exact ih hrest he

end Json.Tree

/-! ## What can be read -/

/-- What can be read within `room` arrays and objects: the names of the members of an object are
distinct, no default is the literal null, and no more arrays and objects stand inside each other
than that. -/
structure FieldSchema.IsReadable (room : ℕ) (field : FieldSchema) : Prop where
  names : field.HasDistinctNames
  defaults : field.HasNoNullDefault
  depth : field.toJson.depth ≤ room

/-- What can be read as a schema within `room` arrays and objects. -/
structure Schema.IsReadable (room : ℕ) (schema : Schema) : Prop where
  names : schema.HasDistinctNames
  defaults : schema.HasNoNullDefault
  depth : schema.toJson.depth ≤ room

namespace Schema

variable {schema : Schema} {room : ℕ}

/-- The names are distinct in a schema when its own are and those in its members. -/
lemma hasDistinctNames_iff : schema.HasDistinctNames ↔
    (Entries.names schema).Nodup ∧ ∀ member ∈ schema, member.2.HasDistinctNames := by
  rw [HasDistinctNames, FieldSchema.HasDistinctNames, FieldSchema.everywhere_ofObject]
  simp [FieldSchema.ofObject, FieldSchema.HasDistinctNames]

/-- No default is null in a schema when none is in its members. -/
lemma hasNoNullDefault_iff :
    schema.HasNoNullDefault ↔ ∀ member ∈ schema, member.2.HasNoNullDefault := by
  rw [HasNoNullDefault, FieldSchema.HasNoNullDefault, FieldSchema.everywhere_ofObject]
  simp [FieldSchema.ofObject, FieldSchema.HasNoNullDefault]

/-- A schema can be read with one object more than its members, whose names are distinct. -/
lemma isReadable_succ_iff : schema.IsReadable (room + 1) ↔
    (Entries.names schema).Nodup ∧ ∀ member ∈ schema, member.2.IsReadable room := by
  constructor
  · rintro ⟨hnames, hdefaults, hdepth⟩
    obtain ⟨hnodup, hnames⟩ := hasDistinctNames_iff.1 hnames
    exact ⟨hnodup, fun member hm => ⟨hnames member hm, hasNoNullDefault_iff.1 hdefaults member hm,
      depth_toJson_le_iff.1 hdepth member hm⟩⟩
  · rintro ⟨hnodup, hmembers⟩
    exact ⟨hasDistinctNames_iff.2 ⟨hnodup, fun member hm => (hmembers member hm).names⟩,
      hasNoNullDefault_iff.2 fun member hm => (hmembers member hm).defaults,
      depth_toJson_le_iff.2 fun member hm => (hmembers member hm).depth⟩

end Schema

/-- Only null is read as null. -/
lemma Literal.ne_null_of_ofTree? {value : Tree} {literal : Literal} (hvalue : value ≠ .null)
    (h : Literal.ofTree? value = some literal) : literal ≠ .null := by
  rintro rfl
  unfold ofTree? at h
  split at h
  · exact hvalue rfl
  · cases h
  · obtain ⟨_, -, he⟩ := Option.map_eq_some_iff.1 h
    cases he
  · obtain ⟨_, -, he⟩ := Option.map_eq_some_iff.1 h
    cases he
  · cases h

/-- Literals are read only where there is room for an array. -/
lemma ne_zero_of_literals? {room : ℕ} {value : Tree} {values : List Literal}
    (h : literals? room value = some values) : room ≠ 0 := by
  unfold literals? at h
  split at h
  · split at h
    · cases h
    · assumption
  · cases h

namespace FieldSchema

variable {room : ℕ} {field : FieldSchema}

/-- A field can be read with one object more than its parts: its default is not the literal null,
there is room for an array if there are literals, and its element and its members can be read. -/
lemma isReadable_succ (hdefault : field.initial ≠ some .null)
    (hchoices : field.choices ≠ none → room ≠ 0)
    (hitem : ∀ item, field.item = some item → item.IsReadable room)
    (hfields : ∀ fields, field.fields = some fields → Schema.IsReadable room fields) :
    field.IsReadable (room + 1) where
  names := by
    refine everywhere_iff.2 ⟨fun fields hf => ?_, fun item hi => (hitem item hi).names,
      fun fields hf => ?_⟩
    · exact (Schema.hasDistinctNames_iff.1 (hfields fields hf).names).1
    · exact (Schema.hasDistinctNames_iff.1 (hfields fields hf).names).2
  defaults := by
    refine everywhere_iff.2 ⟨hdefault, fun item hi => (hitem item hi).defaults, fun fields hf => ?_⟩
    exact Schema.hasNoNullDefault_iff.1 (hfields fields hf).defaults
  depth := depth_toJson_le_iff.2 ⟨hchoices, fun item hi => (hitem item hi).depth,
    fun fields hf => (hfields fields hf).depth⟩

end FieldSchema

/-- What is read as a field or as a schema can be read.

**Proof sketch.** Induction on the room. A part that may be null is read from something else than
null, so no default is the literal null, and the element and the members are read with less room.
The members of a schema are entries, so their names are distinct. -/
lemma isReadable_of_ofTree? (room : ℕ) :
    (∀ value field, FieldSchema.ofTree? room value = some field → field.IsReadable room) ∧
      ∀ value schema, Schema.ofTree? room value = some schema → schema.IsReadable room := by
  induction room with
  | zero =>
    refine ⟨fun value field h => ?_, fun value schema h => ?_⟩
    · rw [FieldSchema.ofTree?] at h
      cases h
    · rw [Schema.ofTree?] at h
      · cases h
      · intro room members hroom
        cases hroom
  | succ room ih =>
    obtain ⟨hfield, hschema⟩ := ih
    refine ⟨fun value field h => ?_, fun value schema h => ?_⟩
    · rw [FieldSchema.ofTree?] at h
      -- one part after another, in the order of their names
      obtain ⟨parts, -, h⟩ := Option.bind_eq_some_iff.1 h
      obtain ⟨kind, -, h⟩ := Option.bind_eq_some_iff.1 h
      obtain ⟨required, -, h⟩ := Option.bind_eq_some_iff.1 h
      obtain ⟨min, -, h⟩ := Option.bind_eq_some_iff.1 h
      obtain ⟨max, -, h⟩ := Option.bind_eq_some_iff.1 h
      obtain ⟨choices, hchoices, h⟩ := Option.bind_eq_some_iff.1 h
      obtain ⟨item, hitem, h⟩ := Option.bind_eq_some_iff.1 h
      obtain ⟨fields, hfields, h⟩ := Option.bind_eq_some_iff.1 h
      obtain ⟨nullable, -, h⟩ := Option.bind_eq_some_iff.1 h
      obtain ⟨hidden, -, h⟩ := Option.bind_eq_some_iff.1 h
      obtain ⟨marked, -, h⟩ := Option.bind_eq_some_iff.1 h
      obtain ⟨initial, hinitial, he⟩ := Option.bind_eq_some_iff.1 h
      cases he
      refine FieldSchema.isReadable_succ ?_ ?_ ?_ ?_
      · rintro rfl
        obtain ⟨value, hvalue, hread⟩ := Tree.exists_of_part?_optional? hinitial
        exact Literal.ne_null_of_ofTree? hvalue hread rfl
      · intro hsome
        obtain ⟨values, rfl⟩ := Option.ne_none_iff_exists'.1 hsome
        obtain ⟨value, -, hread⟩ := Tree.exists_of_part?_optional? hchoices
        exact ne_zero_of_literals? hread
      · rintro item rfl
        obtain ⟨value, -, hread⟩ := Tree.exists_of_part?_optional? hitem
        exact hfield value item hread
      · rintro fields rfl
        obtain ⟨value, -, hread⟩ := Tree.exists_of_part?_optional? hfields
        exact hschema value fields hread
    · cases value with
      | object members =>
        rw [Schema.ofTree?] at h
        obtain ⟨entries, hentries, rfl⟩ := Option.map_eq_some_iff.1 h
        refine Schema.isReadable_succ_iff.2
          ⟨Entries.nodup_names_ofList entries, fun member hm => ?_⟩
        obtain ⟨value, hread⟩ := Tree.exists_of_mem_members? hentries (Entries.mem_of_mem_ofList hm)
        exact hfield value member.2 hread
      | _ => simp [Schema.ofTree?] at h

/-- Exactly the fields that can be read are read from something, and their own form is one such
thing. -/
theorem FieldSchema.exists_ofTree?_iff {room : ℕ} {field : FieldSchema} :
    (∃ value, ofTree? room value = some field) ↔ field.IsReadable room := by
  constructor
  · rintro ⟨value, h⟩
    exact (isReadable_of_ofTree? room).1 value field h
  · rintro ⟨hnames, hdefaults, hdepth⟩
    refine ⟨field.toJson.tree, ?_⟩
    rw [ofTree?_toJson hnames hdepth, withoutNullDefaults_eq_self_iff.2 hdefaults]

/-- Exactly the schemas that can be read are read from something, and their own form is one such
thing. -/
theorem Schema.exists_ofTree?_iff {room : ℕ} {schema : Schema} :
    (∃ value, ofTree? room value = some schema) ↔ schema.IsReadable room := by
  constructor
  · rintro ⟨value, h⟩
    exact (isReadable_of_ofTree? room).2 value schema h
  · rintro ⟨hnames, hdefaults, hdepth⟩
    refine ⟨schema.toJson.tree, ?_⟩
    rw [ofTree?_toJson hnames hdepth, withoutNullDefaults_eq_self_iff.2 hdefaults]

/-! ## Texts -/

/-- A field that can be read is read from its JSON, be that indented or not. -/
lemma FieldSchema.IsReadable.ofText? {field : FieldSchema}
    (h : field.IsReadable Json.nestingLimit) :
    ∀ write ∈ [Json.compact, Json.pretty],
      FieldSchema.ofText? (write field.toJson) = some field := by
  have hread : FieldSchema.ofTree? Json.nestingLimit field.toJson.tree = some field := by
    rw [FieldSchema.ofTree?_toJson h.names h.depth, withoutNullDefaults_eq_self_iff.2 h.defaults]
  simp [FieldSchema.ofText?, Tree.ofText?_compact, Tree.ofText?_pretty, hread]

/-- A schema that can be read is read from its JSON, be that indented or not. -/
lemma Schema.IsReadable.ofText? {schema : Schema} (h : schema.IsReadable Json.nestingLimit) :
    ∀ write ∈ [Json.compact, Json.pretty], Schema.ofText? (write schema.toJson) = some schema := by
  have hread := Schema.ofText?_toJson h.names h.depth
  rw [withoutNullDefaults_eq_self_iff.2 h.defaults] at hread
  simpa using hread

/-- Exactly the fields that can be read are read from a text. -/
theorem FieldSchema.exists_ofText?_iff {field : FieldSchema} :
    (∃ text, ofText? text = some field) ↔ field.IsReadable Json.nestingLimit := by
  constructor
  · rintro ⟨text, h⟩
    obtain ⟨value, -, hread⟩ := Option.bind_eq_some_iff.1 h
    exact exists_ofTree?_iff.1 ⟨value, hread⟩
  · exact fun h => ⟨field.toJson.compact, h.ofText? _ (List.mem_cons_self ..)⟩

/-- Exactly the schemas that can be read are read from a text. -/
theorem Schema.exists_ofText?_iff {schema : Schema} :
    (∃ text, ofText? text = some schema) ↔ schema.IsReadable Json.nestingLimit := by
  constructor
  · rintro ⟨text, h⟩
    obtain ⟨value, -, hread⟩ := Option.bind_eq_some_iff.1 h
    exact exists_ofTree?_iff.1 ⟨value, hread⟩
  · exact fun h => ⟨schema.toJson.compact, h.ofText? _ (List.mem_cons_self ..)⟩

/-- **What is read has a canonical form.** Whatever text a field or a schema is read from, the text
that it is written as, indented or not, is read as the same value, with the members of every object
in the same order, and that value is written as the same text again. -/
theorem Schema.ofText?_is_canonical :
    (∀ text field, FieldSchema.ofText? text = some field → ∀ write ∈ [Json.compact, Json.pretty],
      FieldSchema.ofText? (write field.toJson) = some field ∧
        (FieldSchema.ofText? (write field.toJson)).map (fun again => write again.toJson) =
          some (write field.toJson)) ∧
    ∀ text schema, Schema.ofText? text = some schema → ∀ write ∈ [Json.compact, Json.pretty],
      Schema.ofText? (write schema.toJson) = some schema ∧
        (Schema.ofText? (write schema.toJson)).map (fun again => write again.toJson) =
          some (write schema.toJson) := by
  constructor
  · intro text field h write hwrite
    have hread := (FieldSchema.exists_ofText?_iff.1 ⟨text, h⟩).ofText? write hwrite
    exact ⟨hread, by rw [hread, Option.map_some]⟩
  · intro text schema h write hwrite
    have hread := (Schema.exists_ofText?_iff.1 ⟨text, h⟩).ofText? write hwrite
    exact ⟨hread, by rw [hread, Option.map_some]⟩

namespace Untidy

/-- A list whose names are in no particular order, with a name that is unknown, a flag that is not
set and a part that is null. Its elements are described by their parts in a row. -/
def listText : String :=
  "\x7b\"hidden\":false,\"?\":[],\"itemType\":[\"string\",true,0,255,[null,\"\\u0022\"]]," ++
    "\"min\":null,\"type\":\"array\"\x7d"

/-- The list of that text. -/
def list : FieldSchema :=
  FieldSchema.ofArray
    { kind := .string, required := true, min := some 0, max := some 255,
      choices := some [.null, .string "\""] }

/-- A record with a member that is given twice, and one whose default is null. -/
def recordText : String :=
  "\x7b\"b\":\x7b\"type\":\"string\"\x7d," ++
    "\"a\":\x7b\"default\":null,\"type\":\x7b\"number\":null\x7d\x7d," ++
    "\"b\":\x7b\"fields\":\x7b\x7d,\"type\":\"object\"\x7d\x7d"

/-- The record of that text: the member is where it is first given, and is what it is last given
as. -/
def record : Schema :=
  [("b", { kind := .object, fields := some [] }), ("a", { kind := .number })]

end Untidy

/-- Both are written in another way than they were given, and read from that again. -/
theorem Schema.ofText?_is_canonical_untidy :
    (FieldSchema.ofText? Untidy.listText = some Untidy.list ∧
      Untidy.list.toJson.compact ≠ Untidy.listText ∧
      FieldSchema.ofText? Untidy.list.toJson.compact = some Untidy.list) ∧
    Schema.ofText? Untidy.recordText = some Untidy.record ∧
      (Schema.toJson Untidy.record).compact ≠ Untidy.recordText ∧
      Schema.ofText? (Schema.toJson Untidy.record).pretty = some Untidy.record := by
  have hlist : FieldSchema.ofText? Untidy.listText = some Untidy.list := by decide +kernel
  have hrecord : Schema.ofText? Untidy.recordText = some Untidy.record := by decide +kernel
  have hlistChanged : Untidy.list.toJson.compact ≠ Untidy.listText := by decide +kernel
  have hrecordChanged : (Schema.toJson Untidy.record).compact ≠ Untidy.recordText := by
    decide +kernel
  obtain ⟨hfields, hschemas⟩ := ofText?_is_canonical
  exact ⟨⟨hlist, hlistChanged, (hfields _ _ hlist Json.compact (by simp)).1⟩, hrecord,
    hrecordChanged, (hschemas _ _ hrecord Json.pretty (by simp)).1⟩

end ModelSchema
