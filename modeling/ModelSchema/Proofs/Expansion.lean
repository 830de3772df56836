import Mathlib.Data.List.Chain
import Mathlib.Data.List.Perm.Subperm
import ModelSchema.Proofs.Annotation
import ModelSchema.Proofs.Declarations

set_option autoImplicit false

/-!
# Expansion along a path

The models in expansion form a path in the graph of references, and the models that may still be
expanded are the declared ones off the path. Said so, expansion is a recursion on the path alone.

## Main definitions

* `Catalog.expandFrom` — the members of a model at the end of a path.
* `Catalog.reference` — what stands for a reference at the end of a path.
* `Catalog.IsPath` — declared and distinct models, each of which refers to the next one.

## Main results

* `Catalog.expandFrom_eq` — the recursion on the path.
* `Catalog.IsPath.induction` — induction over the paths that go on from a path.
* `Catalog.exists_expandFrom_iff` — one step of a successful expansion.
* `Catalog.expandFrom_error` — one step of a failing expansion.
-/

namespace ModelSchema

namespace Catalog

variable {catalog : Catalog} {path : List String} {model : Model}

/-! ## The recursion -/

/-- The models of a catalog that are not on a path. -/
def offPath (catalog : Catalog) (path : List String) : List Model :=
  catalog.models.filter fun model => model.name ∉ path

/-- The members of a model when the models of `path`, the last of which is this one, are in
expansion. -/
def expandFrom (catalog : Catalog) (path : List String) (model : Model) : Traced Schema :=
  model.expand (catalog.offPath path) path

/-- What stands for the reference of a field to the model `name` when the models of `path` are in
expansion: a failure if that model is one of them, and otherwise its own members. -/
def reference (catalog : Catalog) (path : List String) (field : Field) (name : String) :
    Traced Schema :=
  if name ∈ path then
    Traced.fail (.recursiveNesting (path.dropWhile (· != name) ++ [name]) field.position)
  else
    match catalog.model? name with
    | some next => catalog.expandFrom (path ++ [name]) next
    | none => Traced.fail (.undefinedType name field.name field.position)

/-- A model is found off a path when its name is not on it. -/
lemma find?_offPath (catalog : Catalog) (path : List String) (name : String) :
    (catalog.offPath path).find? (·.name == name) =
      if name ∈ path then none else catalog.model? name := by
  unfold offPath model?
  rw [List.find?_filter]
  split
  · next h =>
    rw [List.find?_eq_none]
    intro m _ hm
    obtain ⟨hp, rfl⟩ : m.name ∉ path ∧ m.name = name := by simpa using hm
    exact hp h
  · next h =>
    congr 1
    funext m
    by_cases hm : m.name = name <;> simp [hm, h]

/-- The other models off a path are those off the path with that model at its end. -/
lemma others_offPath (catalog : Catalog) (path : List String) (name : String) :
    Model.others (catalog.offPath path) name = catalog.offPath (path ++ [name]) := by
  unfold Model.others offPath
  rw [List.filter_filter]
  congr 1
  funext m
  by_cases hm : m.name = name <;> simp [hm]

/-- Expansion is a recursion on the path of models in expansion. -/
theorem expandFrom_eq (catalog : Catalog) (path : List String) (model : Model) :
    catalog.expandFrom path model = model.expandFields path.length (catalog.reference path) := by
  unfold expandFrom
  rw [Model.expand]
  congr 1
  funext field name
  have hfind := catalog.find?_offPath path name
  -- the two lookups agree, but one is in the models off the path and the other in all of them
  unfold reference
  split
  · next next h =>
    rw [h] at hfind
    split at hfind
    · cases hfind
    · next hn =>
      rw [if_neg hn, ← hfind, others_offPath]
      rfl
  · next h =>
    rw [h] at hfind
    unfold Field.brokenReference
    split
    · rfl
    · next hn =>
      rw [if_neg hn] at hfind
      rw [← hfind]

/-- The schema of a model is its expansion at the end of the path of this model alone. -/
lemma resolve_eq (catalog : Catalog) (model : Model) :
    catalog.resolve model = catalog.expandFrom [model.name] model := by
  unfold resolve expandFrom
  congr 1
  unfold Model.others offPath
  congr 1
  funext m
  by_cases hm : m.name = model.name <;> simp [hm]

/-- The outcome of a model is that of its fields, each under its name. -/
lemma expandFrom_outcome (catalog : Catalog) (path : List String) (model : Model) :
    (catalog.expandFrom path model).outcome =
      model.fields.mapM fun field =>
        (field.name, ·) <$> (field.expand (catalog.reference path field)).outcome := by
  rw [expandFrom_eq, Model.expandFields, Traced.outcome_bind, Traced.outcome_log, pure_bind,
    Traced.outcome_mapM]
  congr 1
  funext field
  rw [Traced.outcome_bind]
  rfl

/-- The description of a field at the end of a path. -/
def member (catalog : Catalog) (path : List String) (field : Field) :
    Except CompileError FieldSchema :=
  field.base (fun name => (catalog.reference path field name).outcome) >>= field.settle

/-- An expansion succeeds when all fields of the model do, and it has them in order under their
names. -/
lemma expandFrom_eq_ok {schema : Schema} :
    (catalog.expandFrom path model).outcome = .ok schema ↔
      List.Forall₂
        (fun field entry => entry.1 = field.name ∧ catalog.member path field = .ok entry.2)
        model.fields schema := by
  rw [expandFrom_outcome, Outcome.mapM_eq_ok]
  have entry_iff (field : Field) (entry : String × FieldSchema) :
      (field.name, ·) <$> (field.expand (catalog.reference path field)).outcome = .ok entry ↔
        entry.1 = field.name ∧ catalog.member path field = .ok entry.2 := by
    rw [Outcome.map_eq_ok, Field.expand_outcome]
    constructor
    · rintro ⟨schema, h, rfl⟩
      exact ⟨rfl, h⟩
    · rintro ⟨hn, h⟩
      exact ⟨entry.2, h, by rw [← hn]⟩
  simp only [entry_iff]

/-- Every member of an expanded model describes one of its fields. -/
lemma exists_field_of_mem {schema : Schema}
    (hs : (catalog.expandFrom path model).outcome = .ok schema) {entry : String × FieldSchema}
    (he : entry ∈ schema) :
    ∃ field ∈ model.fields, entry.1 = field.name ∧ catalog.member path field = .ok entry.2 := by
  rw [expandFrom_eq_ok, List.forall₂_iff_get] at hs
  obtain ⟨hlength, hs⟩ := hs
  obtain ⟨i, hi, rfl⟩ := List.getElem_of_mem he
  have hi' : i < model.fields.length := hlength ▸ hi
  exact ⟨model.fields[i], List.getElem_mem hi', hs i hi' hi⟩

/-! ## Paths -/

/-- Models in expansion: declared and distinct names, each of which refers to the next one, and the
last of which is that of the model that is being expanded. -/
structure IsPath (catalog : Catalog) (path : List String) (model : Model) : Prop where
  mem : model ∈ catalog.models
  declared : path ⊆ catalog.models.map Model.name
  last : path.getLast? = some model.name
  distinct : path.Nodup
  linked : path.IsChain (Model.Refers catalog.models)

namespace IsPath

/-- A model alone is a path. -/
lemma single (h : model ∈ catalog.models) : catalog.IsPath [model.name] model where
  mem := h
  declared := by simpa using ⟨model, h, rfl⟩
  last := rfl
  distinct := List.nodup_singleton _
  linked := .singleton _

variable {field : Field} {name : String} {next : Model}

/-- A reference to a model off the path makes the path longer. -/
lemma snoc (h : catalog.IsPath path model) (hf : field ∈ model.fields)
    (hb : field.type.base = .model name) (hn : name ∉ path)
    (hnext : catalog.model? name = some next) : catalog.IsPath (path ++ [name]) next := by
  obtain ⟨hmem, rfl⟩ := model?_eq_some.1 hnext
  refine ⟨hmem, ?_, by simp, ?_, ?_⟩
  · exact List.append_subset.2 ⟨h.declared, by simpa using ⟨next, hmem, rfl⟩⟩
  · rw [List.nodup_append]
    exact ⟨h.distinct, List.nodup_singleton _, fun x hx y hy e => hn (by
      rw [List.mem_singleton] at hy
      rwa [← hy, ← e])⟩
  · rw [List.isChain_append]
    refine ⟨h.linked, .singleton _, fun x hx y hy => ?_⟩
    rw [h.last, Option.mem_some_iff] at hx
    obtain rfl : next.name = y := by simpa using hy
    exact ⟨model, h.mem, hx, field, hf, hb⟩

/-- A path is not longer than the list of declared models. -/
lemma length_le (h : catalog.IsPath path model) : path.length ≤ catalog.models.length := by
  have hsub := List.subperm_of_subset h.distinct h.declared
  simpa using hsub.length_le

/-- Induction over the paths that go on from a path: a statement holds at the end of a path when it
holds at the end of every path that is longer by a reference to a model off the path.

**Proof sketch.** The paths cannot become longer than the list of models. -/
theorem induction {motive : ∀ path model, catalog.IsPath path model → Prop}
    (step : ∀ path model (h : catalog.IsPath path model),
      (∀ field ∈ model.fields, ∀ name next, field.type.base = .model name → name ∉ path →
        catalog.model? name = some next → ∀ h' : catalog.IsPath (path ++ [name]) next,
          motive (path ++ [name]) next h') → motive path model h)
    (h : catalog.IsPath path model) : motive path model h := by
  obtain ⟨n, hn⟩ : ∃ n, n + path.length = catalog.models.length :=
    ⟨_, Nat.sub_add_cancel h.length_le⟩
  induction n generalizing path model with
  | zero =>
    refine step path model h fun field hf name next hb hname hnext hlong => ?_
    have := hlong.length_le
    rw [List.length_append, List.length_singleton] at this
    omega
  | succ n ih =>
    refine step path model h fun field hf name next hb hname hnext hlong => ih hlong ?_
    rw [List.length_append, List.length_singleton]
    omega

end IsPath

/-! ## One step of an expansion -/

variable {field : Field}

/-- A reference at the end of a path to a model off the path is replaced by the members of that
model. -/
lemma reference_of_not_mem {name : String} {next : Model} (hn : name ∉ path)
    (hnext : catalog.model? name = some next) :
    catalog.reference path field name = catalog.expandFrom (path ++ [name]) next := by
  unfold reference
  rw [if_neg hn, hnext]

/-- A field that refers to a model is described by the members of that model, which is off the
path. -/
lemma exists_of_member {name : String} {schema : FieldSchema} (h : catalog.IsPath path model)
    (hf : field ∈ model.fields) (hb : field.type.base = .model name)
    (hs : catalog.member path field = .ok schema) :
    ∃ next members, name ∉ path ∧ catalog.model? name = some next ∧
      (catalog.expandFrom (path ++ [name]) next).outcome = .ok members ∧
      field.settle (.ofObject members) = .ok schema := by
  obtain ⟨base, hbase, hs⟩ := Outcome.bind_eq_ok.1 hs
  simp only [Field.base, hb] at hbase
  obtain ⟨members, hmembers, rfl⟩ := Outcome.map_eq_ok.1 hbase
  obtain ⟨next, hnext⟩ := exists_model?_of_base h.mem hf hb
  by_cases hn : name ∈ path
  · simp [reference, hn] at hmembers
  · rw [reference_of_not_mem hn hnext] at hmembers
    exact ⟨next, members, hn, hnext, hmembers, hs⟩

/-- What the members of a model off the path make of a field that refers to it. -/
lemma member_of_model {name : String} {next : Model} {members : Schema}
    (hb : field.type.base = .model name) (hn : name ∉ path)
    (hnext : catalog.model? name = some next)
    (hmembers : (catalog.expandFrom (path ++ [name]) next).outcome = .ok members) :
    catalog.member path field = field.settle (.ofObject members) := by
  unfold member Field.base
  simp only [hb]
  rw [reference_of_not_mem hn hnext, hmembers]
  rfl

/-- What a primitive field is does not depend on the path. -/
lemma member_of_primitive {kind : FieldKind} (hb : field.type.base = .primitive kind) :
    catalog.member path field = field.settle (.ofKind kind) := by
  unfold member Field.base
  simp only [hb]
  rfl

/-- A field is described when it is sound and what it refers to is expanded. -/
lemma exists_member_iff (h : catalog.IsPath path model) (hf : field ∈ model.fields) :
    (∃ schema, catalog.member path field = .ok schema) ↔
      field.IsSound ∧ ∀ name next, field.type.base = .model name → catalog.model? name = some next →
        name ∉ path ∧
          ∃ schema, (catalog.expandFrom (path ++ [name]) next).outcome = .ok schema := by
  cases hb : field.type.base with
  | primitive kind =>
    rw [member_of_primitive hb, Field.exists_settle_iff rfl rfl]
    simp
  | model name =>
    constructor
    · rintro ⟨schema, hs⟩
      obtain ⟨next, members, hn, hnext, hmembers, hs⟩ := exists_of_member h hf hb hs
      refine ⟨(Field.exists_settle_iff rfl rfl).1 ⟨schema, hs⟩, ?_⟩
      rintro _ next' ⟨⟩ hnext'
      rw [hnext] at hnext'
      cases hnext'
      exact ⟨hn, members, hmembers⟩
    · rintro ⟨hsound, hnext⟩
      obtain ⟨next, hfound⟩ := exists_model?_of_base h.mem hf hb
      obtain ⟨hn, members, hmembers⟩ := hnext name next rfl hfound
      rw [member_of_model hb hn hfound hmembers]
      exact (Field.exists_settle_iff rfl rfl).2 hsound

/-- A model is expanded when its fields are sound and refer to models off the path that are
expanded. -/
theorem exists_expandFrom_iff (h : catalog.IsPath path model) :
    (∃ schema, (catalog.expandFrom path model).outcome = .ok schema) ↔
      ∀ field ∈ model.fields, field.IsSound ∧
        ∀ name next, field.type.base = .model name → catalog.model? name = some next →
          name ∉ path ∧
            ∃ schema, (catalog.expandFrom (path ++ [name]) next).outcome = .ok schema := by
  rw [expandFrom_outcome, Outcome.exists_mapM_eq_ok]
  refine forall₂_congr fun field hf => ?_
  rw [← exists_member_iff h hf, Field.expand_outcome]
  exact Outcome.exists_map_eq_ok

/-- An expansion fails because a field is not sound, because a field refers to a model of the path,
or because the expansion of what a field refers to fails. -/
theorem expandFrom_error {e : CompileError} (h : catalog.IsPath path model)
    (he : (catalog.expandFrom path model).outcome = .error e) :
    ∃ field ∈ model.fields,
      (¬ field.IsSound ∧ ∃ base, field.settle base = .error e) ∨
      (∃ name ∈ path, field.type.base = .model name ∧
        e = .recursiveNesting (path.dropWhile (· != name) ++ [name]) field.position) ∨
      ∃ name next, field.type.base = .model name ∧ name ∉ path ∧ catalog.model? name = some next ∧
        (catalog.expandFrom (path ++ [name]) next).outcome = .error e := by
  rw [expandFrom_outcome] at he
  obtain ⟨field, hf, he⟩ := Outcome.mem_of_mapM_eq_error he
  refine ⟨field, hf, ?_⟩
  rw [Outcome.map_eq_error, Field.expand_outcome, Outcome.bind_eq_error] at he
  rcases he with he | ⟨base, hbase, he⟩
  · right
    unfold Field.base at he
    split at he
    · cases he
    · next name hb =>
      replace he := Outcome.map_eq_error.1 he
      dsimp only at he
      by_cases hn : name ∈ path
      · left
        simp only [reference, if_pos hn, Traced.outcome_fail, Except.error.injEq] at he
        exact ⟨name, hn, hb, he.symm⟩
      · right
        obtain ⟨next, hnext⟩ := exists_model?_of_base h.mem hf hb
        rw [reference_of_not_mem hn hnext] at he
        exact ⟨name, next, hb, hn, hnext, he⟩
  · left
    refine ⟨fun hsound => ?_, base, he⟩
    have hbounds := Field.bounds_of_base hbase
    obtain ⟨schema, hs⟩ := (Field.exists_settle_iff hbounds.1 hbounds.2).2 hsound
    rw [he] at hs
    cases hs

end Catalog

end ModelSchema
