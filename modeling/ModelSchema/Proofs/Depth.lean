import ModelSchema.Proofs.Expansion

set_option autoImplicit false

/-!
# The depth of an expansion

There are never more models in expansion than there are declared models. So the recursion on the
path comes to an end without looking at anything but the path, the events never tell of a greater
depth, and the result never has more objects inside each other.

## Main definitions

* `Catalog.expandWithin` — the recursion on the path, cut off at a number of models in expansion.
* `Schema.nesting` — how many objects with members a schema has inside each other.

## Main results

* `Catalog.expandWithin_eq` — the recursion is never cut off at the number of declared models.
* `Catalog.depth_le` — no event tells of a greater depth.
* `Catalog.nesting_le` — no result has a greater nesting.
-/

namespace ModelSchema

/-! ## The recursion on the path alone -/

namespace Catalog

variable {catalog : Catalog} {path : List String} {model : Model}

/-- The members of a model at the end of a path, by the recursion on the path: a reference is looked
up among the declared models, and it fails when the model that is found is on the path. Where `n`
further models would not be enough, `beyond` gives the answer instead. -/
def expandWithin (catalog : Catalog) (beyond : List String → Model → Traced Schema) :
    Nat → List String → Model → Traced Schema
  | 0, path, model => beyond path model
  | n + 1, path, model =>
    model.expandFields path.length fun field name =>
      match catalog.model? name with
      | some next =>
        if name ∈ path then
          Traced.fail (.recursiveNesting (path.dropWhile (· != name) ++ [name]) field.position)
        else catalog.expandWithin beyond n (path ++ [name]) next
      | none => Traced.fail (.undefinedType name field.name field.position)

/-- The recursion on the path agrees with the expansion as long as there may be more models off the
path.

**Proof sketch.** Induction on the number of further models. A path of distinct and declared names
is never longer than the list of models, so the recursion is not cut off. -/
lemma expandWithin_eq (beyond : List String → Model → Traced Schema) {n : ℕ}
    (hdeclared : path ⊆ catalog.models.map Model.name) (hdistinct : path.Nodup)
    (hn : catalog.models.length < n + path.length) :
    catalog.expandWithin beyond n path model = catalog.expandFrom path model := by
  induction n generalizing path model with
  | zero =>
    have hle := (List.subperm_of_subset hdistinct hdeclared).length_le
    rw [List.length_map] at hle
    omega
  | succ n ih =>
    rw [expandWithin, expandFrom_eq]
    congr 1
    funext field name
    unfold reference
    rcases hnext : catalog.model? name with _ | next
    -- a name that is not declared is not on the path either
    · have hn : name ∉ path := by
        intro hn
        obtain ⟨m, hm, rfl⟩ := List.mem_map.1 (hdeclared hn)
        rw [model?_eq_some.2 ⟨hm, rfl⟩] at hnext
        cases hnext
      rw [if_neg hn]
    · by_cases hn : name ∈ path
      · simp only [if_pos hn]
      · simp only [if_neg hn]
        obtain ⟨hm, hname⟩ := model?_eq_some.1 hnext
        apply ih
        · exact List.append_subset.2 ⟨hdeclared, by simpa using ⟨next, hm, hname⟩⟩
        · exact List.nodup_append.2 ⟨hdistinct, List.nodup_singleton _, fun x hx y hy e =>
            hn (List.mem_singleton.1 hy ▸ e ▸ hx)⟩
        · rw [List.length_append, List.length_singleton]
          omega

end Catalog

/-! ## Events -/

namespace Field

variable {field : Field}

/-- The decorators of a field leave no events but those of the ones without a meaning. -/
lemma mem_events_annotate {schema : FieldSchema} {e : Event}
    (h : e ∈ (field.annotate schema).events) :
    ∃ d ∈ field.decorators, e = .ignoring d.name field.name d.position := by
  unfold annotate at h
  generalize field.decorators = ds at h
  induction ds generalizing schema with
  | nil => cases h
  | cons d ds ih =>
    rw [List.foldlM_cons] at h
    rcases Traced.mem_events_bind h with h | ⟨s, -, h⟩
    · rcases Traced.mem_events_bind h with h | ⟨a, -, h⟩
      · cases h
      · cases a with
        | some a => cases h
        | none =>
          refine ⟨d, List.mem_cons_self, ?_⟩
          rcases Traced.mem_events_bind h with h | ⟨_, -, h⟩
          · simpa [Traced.log] using h
          · cases h
    · obtain ⟨d', hd', h⟩ := ih h
      exact ⟨d', List.mem_cons_of_mem _ hd', h⟩

/-- The events of a field are those of its reference and those of its decorators. -/
lemma mem_events_expand {reference : String → Traced Schema} {e : Event}
    (h : e ∈ (field.expand reference).events) :
    (∃ name, field.type.base = .model name ∧ e ∈ (reference name).events) ∨
      ∃ d ∈ field.decorators, e = .ignoring d.name field.name d.position := by
  have settled (base : FieldSchema) (h : e ∈ (field.annotate (field.describe base) >>=
      fun schema => Traced.lift (field.checkBounds schema)).events) :
      ∃ d ∈ field.decorators, e = .ignoring d.name field.name d.position := by
    rcases Traced.mem_events_bind h with h | ⟨schema, -, h⟩
    · exact mem_events_annotate h
    · cases h
  unfold expand at h
  cases hb : field.type.base with
  | primitive kind =>
    rw [hb] at h
    rcases Traced.mem_events_bind h with h | ⟨base, -, h⟩
    · cases h
    · exact .inr (settled base h)
  | model name =>
    rw [hb] at h
    rcases Traced.mem_events_bind h with h | ⟨base, -, h⟩
    · rw [Traced.events_map] at h
      exact .inl ⟨name, rfl, h⟩
    · exact .inr (settled base h)

end Field

namespace Catalog

variable {catalog : Catalog} {path : List String} {model : Model}

/-- No event of an expansion tells of more models in expansion than are declared.

**Proof sketch.** Induction over paths. The event of the model itself tells of the length of the
path, the events of a reference are those of a longer path, and decorators have no events of this
sort. -/
lemma depth_le (h : catalog.IsPath path model) {name : String} {depth : ℕ}
    (he : .expanding name depth ∈ (catalog.expandFrom path model).events) :
    depth ≤ catalog.models.length := by
  induction h using IsPath.induction with
  | step path model h ih =>
    rw [expandFrom_eq, Model.expandFields] at he
    rcases Traced.mem_events_bind he with he | ⟨_, -, he⟩
    · obtain ⟨-, rfl⟩ : name = model.name ∧ depth = path.length := by simpa [Traced.log] using he
      exact h.length_le
    · obtain ⟨field, hf, he⟩ := Traced.mem_events_mapM he
      rw [bind_pure_comp, Traced.events_map] at he
      rcases Field.mem_events_expand he with ⟨target, hb, he⟩ | ⟨d, -, he⟩
      · obtain ⟨next, hnext⟩ := exists_model?_of_base h.mem hf hb
        by_cases hn : target ∈ path
        · simp [reference, hn, Traced.fail] at he
        · rw [reference_of_not_mem hn hnext] at he
          exact ih field hf target next hb hn hnext (h.snoc hf hb hn hnext) he
      · cases he

end Catalog

/-! ## Nesting -/

mutual

/-- How many objects with members stand inside each other in a field. -/
def FieldSchema.nesting : FieldSchema → Nat
  | { item, fields, .. } => max (itemNesting item) (fieldsNesting fields)

/-- How many objects with members stand inside each other in the elements of an array. -/
def itemNesting : Option FieldSchema → Nat
  | none => 0
  | some item => item.nesting

/-- How many objects with members stand inside each other in an object, this one included if it has
members. -/
def fieldsNesting : Option (List (String × FieldSchema)) → Nat
  | none => 0
  | some fields => memberNesting fields + 1

/-- How many objects with members stand inside each other in one of some members. -/
def memberNesting : List (String × FieldSchema) → Nat
  | [] => 0
  | (_, field) :: fields => max field.nesting (memberNesting fields)

end

/-- How many objects with members stand inside each other in a schema, itself included. -/
def Schema.nesting (schema : Schema) : Nat :=
  memberNesting schema + 1

/-- A field is nested as deeply as its element or its members. -/
lemma nesting_eq_max (field : FieldSchema) :
    field.nesting = max (itemNesting field.item) (fieldsNesting field.fields) := by
  cases field
  rw [FieldSchema.nesting]

/-- Members are nested no deeper than `n` when none of them is. -/
lemma memberNesting_le_iff {fields : List (String × FieldSchema)} {n : ℕ} :
    memberNesting fields ≤ n ↔ ∀ entry ∈ fields, entry.2.nesting ≤ n := by
  induction fields with
  | nil => simp [memberNesting]
  | cons entry fields ih =>
    obtain ⟨name, field⟩ := entry
    rw [memberNesting, Nat.max_le, ih, List.forall_mem_cons]

/-- A settled field has the nesting of its base. -/
lemma Field.nesting_settle {field : Field} {base schema : FieldSchema}
    (h : field.settle base = .ok schema) : schema.nesting = base.nesting := by
  obtain ⟨-, -, -, hitem, hfields⟩ := Field.settle_shape h
  rw [nesting_eq_max, hitem, hfields]
  unfold Field.describe
  split
  · simp [FieldSchema.ofArray, itemNesting, fieldsNesting, nesting_eq_max]
  · exact (nesting_eq_max base).symm

namespace Catalog

variable {catalog : Catalog} {path : List String} {model : Model}

/-- The members of a model have no greater nesting than there are declared models off the path, this
model included.

**Proof sketch.** Induction over paths: what stands for a reference is the result of an expansion at
the end of a longer path. -/
lemma nesting_le (h : catalog.IsPath path model) {schema : Schema}
    (hs : (catalog.expandFrom path model).outcome = .ok schema) :
    schema.nesting + path.length ≤ catalog.models.length + 1 := by
  induction h using IsPath.induction generalizing schema with
  | step path model h ih =>
    have hle := h.length_le
    have hmembers : memberNesting schema ≤ catalog.models.length - path.length := by
      rw [memberNesting_le_iff]
      intro entry hentry
      obtain ⟨field, hf, -, hmember⟩ := exists_field_of_mem hs hentry
      cases hb : field.type.base with
      | primitive kind =>
        rw [member_of_primitive hb] at hmember
        rw [Field.nesting_settle hmember]
        exact Nat.zero_le _
      | model name =>
        obtain ⟨next, members, hn, hnext, hmembers, hsettle⟩ := exists_of_member h hf hb hmember
        have := ih field hf name next hb hn hnext (h.snoc hf hb hn hnext) hmembers
        rw [Field.nesting_settle hsettle]
        rw [List.length_append, List.length_singleton] at this
        have hobject : (FieldSchema.ofObject members).nesting = Schema.nesting members := by
          simp [nesting_eq_max, FieldSchema.ofObject, itemNesting, fieldsNesting, Schema.nesting]
        omega
    unfold Schema.nesting
    omega

end Catalog

end ModelSchema
