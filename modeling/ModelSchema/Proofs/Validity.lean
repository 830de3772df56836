import ModelSchema.Compilation
import ModelSchema.Proofs.Expansion

set_option autoImplicit false

/-!
# Valid documents

A document is resolved exactly when it is valid for its root, which is said without expanding
anything: everything is well declared, and what the root reaches is acyclic and has sound fields.
What the root does not reach only has to be well declared.

## Main definitions

* `RootSelection.Exists`, `RootSelection.Picks` — there is a root, and which one it is.
* `IsValidFor` — a list of models is valid for a root selection.

## Main results

* `Catalog.exists_expandFrom_of_acyclic` — an acyclic and sound part of the graph is expanded.
* `Catalog.IsPath.exists_of_reaches` — a successful expansion gets to every name that is reached.
* `exists_of_compile` — what a successful compilation yields is the schema of a root in a catalog.
* `resolveRoot_succeeds_iff` — resolution succeeds exactly for valid documents.
-/

namespace ModelSchema

/-! ## Roots -/

namespace RootSelection

/-- There is something to pick: a model at all, or one of the name. -/
def Exists (models : List Model) : RootSelection → Prop
  | .last => models ≠ []
  | .named name => name ∈ models.map Model.name

/-- The selection picks a model: the last one, or the one of the name. -/
def Picks (models : List Model) (root : Model) : RootSelection → Prop
  | .last => models.getLast? = some root
  | .named name => root ∈ models ∧ root.name = name

variable {models : List Model} {selection : RootSelection} {root : Model}

/-- A root exists when some model is picked. -/
lemma exists_iff : selection.Exists models ↔ ∃ root, selection.Picks models root := by
  cases selection with
  | last =>
    simp only [Exists, Picks]
    rw [← Option.isSome_iff_exists, List.getLast?_isSome]
  | named name => simp only [Exists, Picks, List.mem_map]

/-- A declared model is picked by its name. -/
lemma picks_named (h : root ∈ models) : (named root.name).Picks models root := ⟨h, rfl⟩

/-- The model that is picked is one of them. -/
lemma Picks.mem (h : selection.Picks models root) : root ∈ models := by
  cases selection with
  | last => exact List.mem_of_getLast? h
  | named name => exact h.1

end RootSelection

/-- A list of models is valid for a root selection: it is well declared, the root exists, no cycle
is reached from the root, and the fields of the models that are reached are sound. -/
structure IsValidFor (models : List Model) (selection : RootSelection) : Prop where
  declared : Model.WellDeclared models
  root : selection.Exists models
  acyclic : ∀ root, selection.Picks models root →
    ∀ name, Model.Reaches models root.name name → ¬ Model.OnCycle models name
  sound : ∀ root, selection.Picks models root →
    ∀ model ∈ models, Model.Reaches models root.name model.name → ∀ field ∈ model.fields,
    field.IsSound

namespace Catalog

variable {catalog : Catalog} {path : List String} {model : Model} {name : String}

/-- A catalog finds the root that is picked. -/
lemma root_eq_ok {selection : RootSelection} {root : Model} :
    catalog.root selection = .ok root ↔ selection.Picks catalog.models root := by
  cases selection with
  | last =>
    simp only [Catalog.root, RootSelection.Picks]
    cases catalog.models.getLast? <;> simp
  | named name =>
    simp only [Catalog.root, RootSelection.Picks]
    rw [← model?_eq_some]
    cases catalog.model? name <;> simp

namespace IsPath

/-- The last model of a path is on it. -/
lemma name_mem (h : catalog.IsPath path model) : model.name ∈ path :=
  List.mem_of_getLast? h.last

/-- Every model of a path reaches the one at its end. -/
lemma reaches (h : catalog.IsPath path model) (hn : name ∈ path) :
    Model.Reaches catalog.models name model.name := by
  obtain ⟨before, after, rfl⟩ := List.append_of_mem hn
  refine List.relationReflTransGen_of_exists_isChain_cons after h.linked.right_of_append ?_
  have hlast := h.last
  rw [List.getLast?_append_cons, List.getLast?_eq_some_getLast (List.cons_ne_nil _ _)] at hlast
  exact Option.some.inj hlast

/-- A successful expansion gets to every name that is reached, on a path that goes on from its own.

**Proof sketch.** Induction on the chain of references. The model at the end of the path so far is
the one that the next reference starts from, since names are distinct, and its expansion takes one
step. -/
lemma exists_of_reaches (h : catalog.IsPath path model)
    (hs : ∃ schema, (catalog.expandFrom path model).outcome = .ok schema)
    (hr : Model.Reaches catalog.models model.name name) :
    ∃ path' model', path ⊆ path' ∧ model'.name = name ∧ catalog.IsPath path' model' ∧
      ∃ schema, (catalog.expandFrom path' model').outcome = .ok schema := by
  induction hr with
  | refl => exact ⟨path, model, List.Subset.refl _, rfl, h, hs⟩
  | tail _ hstep ih =>
    obtain ⟨path', model', hsub, rfl, h', hs'⟩ := ih
    obtain ⟨source, hsource, hname, field, hf, hb⟩ := hstep
    obtain rfl := eq_of_name_eq hsource h'.mem hname
    obtain ⟨next, hnext⟩ := exists_model?_of_base hsource hf hb
    obtain ⟨hn, hs''⟩ := ((exists_expandFrom_iff h').1 hs' field hf).2 _ next hb hnext
    exact ⟨_, next, List.Subset.trans hsub (List.subset_append_left _ _),
      (model?_eq_some.1 hnext).2, h'.snoc hf hb hn hnext, hs''⟩

end IsPath

/-- No cycle is reached from a model that is expanded.

**Proof sketch.** On the way round a cycle the expansion would get to a model that refers to a model
of the path. -/
lemma not_onCycle_of_expandFrom (h : catalog.IsPath path model)
    (hs : ∃ schema, (catalog.expandFrom path model).outcome = .ok schema)
    (hr : Model.Reaches catalog.models model.name name) : ¬ Model.OnCycle catalog.models name := by
  intro hcycle
  obtain ⟨path₁, start, -, rfl, h₁, hs₁⟩ := h.exists_of_reaches hs hr
  -- all the way round but for the last reference, on a path that still has `start` on it
  obtain ⟨last, hround, hclose⟩ := Relation.TransGen.tail'_iff.1 hcycle
  obtain ⟨path₂, model₂, hsub, rfl, h₂, hs₂⟩ := h₁.exists_of_reaches hs₁ hround
  obtain ⟨source, hsource, hname, field, hf, hb⟩ := hclose
  obtain rfl := eq_of_name_eq hsource h₂.mem hname
  obtain ⟨next, hnext⟩ := exists_model?_of_base hsource hf hb
  exact (((exists_expandFrom_iff h₂).1 hs₂ field hf).2 _ next hb hnext).1 (hsub h₁.name_mem)

/-- The fields of what is reached from a model that is expanded are sound. -/
lemma isSound_of_expandFrom (h : catalog.IsPath path model)
    (hs : ∃ schema, (catalog.expandFrom path model).outcome = .ok schema) {target : Model}
    (ht : target ∈ catalog.models) (hr : Model.Reaches catalog.models model.name target.name)
    {field : Field} (hf : field ∈ target.fields) : field.IsSound := by
  obtain ⟨path', model', -, hname, h', hs'⟩ := h.exists_of_reaches hs hr
  obtain rfl := eq_of_name_eq h'.mem ht hname
  exact ((exists_expandFrom_iff h').1 hs' field hf).1

/-- A model from which no cycle and no unsound field is reached is expanded at the end of every
path.

**Proof sketch.** Induction over paths. A reference to a model of the path would close a cycle. -/
lemma exists_expandFrom_of_acyclic (h : catalog.IsPath path model)
    (hacyclic : ∀ name, Model.Reaches catalog.models model.name name →
        ¬ Model.OnCycle catalog.models name)
    (hsound : ∀ target ∈ catalog.models, Model.Reaches catalog.models model.name target.name →
        ∀ field ∈ target.fields, field.IsSound) :
    ∃ schema, (catalog.expandFrom path model).outcome = .ok schema := by
  induction h using IsPath.induction with
  | step path model h ih =>
    refine (exists_expandFrom_iff h).2 fun field hf => ?_
    refine ⟨hsound model h.mem .refl field hf, fun name next hb hnext => ?_⟩
    have hstep : Model.Refers catalog.models model.name name := ⟨model, h.mem, rfl, field, hf, hb⟩
    have hn : name ∉ path := fun hn =>
      hacyclic name (.single hstep) (Relation.TransGen.tail' (h.reaches hn) hstep)
    obtain ⟨-, rfl⟩ := model?_eq_some.1 hnext
    exact ⟨hn, ih field hf _ next hb hn hnext (h.snoc hf hb hn hnext)
      (fun name hr => hacyclic name (.head hstep hr))
      (fun target ht hr => hsound target ht (.head hstep hr))⟩

/-- A model of a catalog has a schema exactly when it reaches neither a cycle nor an unsound
field. -/
theorem exists_resolve_iff (hm : model ∈ catalog.models) :
    (∃ schema, (catalog.resolve model).outcome = .ok schema) ↔
      (∀ name, Model.Reaches catalog.models model.name name → ¬ Model.OnCycle catalog.models name) ∧
      ∀ target ∈ catalog.models, Model.Reaches catalog.models model.name target.name →
        ∀ field ∈ target.fields, field.IsSound := by
  rw [resolve_eq]
  have h := IsPath.single hm
  constructor
  · intro hs
    exact ⟨fun name hr => not_onCycle_of_expandFrom h hs hr,
      fun target ht hr field hf => isSound_of_expandFrom h hs ht hr hf⟩
  · rintro ⟨hacyclic, hsound⟩
    exact exists_expandFrom_of_acyclic h hacyclic hsound

end Catalog

/-! ## Compilation -/

/-- Without its trace, resolution checks the models, picks the root and expands it. -/
lemma resolveRoot_outcome (models : List Model) (selection : RootSelection) :
    (resolveRoot models selection).outcome = do
      let catalog ← Catalog.ofModels models
      let root ← catalog.root selection
      let schema ← (catalog.resolve root).outcome
      return (root.name, schema) := by
  simp only [resolveRoot, Traced.outcome_bind, Traced.outcome_lift, Traced.outcome_log,
    Traced.outcome_pure, pure_bind]

/-- What a successful compilation yields: the models of the text make a catalog, and one of them is
the root, with its name and its schema. -/
theorem exists_of_compile {text : String} {options : CompileOptions} {compilation : Compilation}
    (h : compile text options = .ok compilation) :
    Model.ofText text = .ok compilation.models ∧
      ∃ catalog : Catalog, catalog.models = compilation.models ∧
      ∃ root ∈ catalog.models, root.name = compilation.root ∧
        (catalog.resolve root).outcome = .ok compilation.schema := by
  rw [compile_eq] at h
  obtain ⟨models, hmodels, h⟩ := Outcome.bind_eq_ok.1 h
  obtain ⟨result, hresult, hcompilation⟩ := Outcome.bind_eq_ok.1 h
  cases hcompilation
  rw [resolveRoot_outcome] at hresult
  obtain ⟨catalog, hcatalog, hresult⟩ := Outcome.bind_eq_ok.1 hresult
  obtain ⟨root, hroot, hresult⟩ := Outcome.bind_eq_ok.1 hresult
  obtain ⟨schema, hschema, hpair⟩ := Outcome.bind_eq_ok.1 hresult
  cases hpair
  exact ⟨hmodels, catalog, (Catalog.ofModels_eq_ok.1 hcatalog).2, root,
    (Catalog.root_eq_ok.1 hroot).mem, rfl, hschema⟩

/-- **Resolution accepts exactly the valid documents.**

**Proof sketch.** The checks pass for well-declared models, the root is found when it exists, and
the root has a schema when it reaches neither a cycle nor an unsound field. -/
theorem resolveRoot_succeeds_iff (models : List Model) (selection : RootSelection) :
    (∃ result, (resolveRoot models selection).outcome = .ok result) ↔
      IsValidFor models selection := by
  simp only [resolveRoot, Traced.outcome_bind, Traced.outcome_lift, Outcome.bind_eq_ok]
  constructor
  · rintro ⟨result, catalog, hcatalog, root, hroot, -, -, schema, hschema, -⟩
    obtain ⟨hdeclared, rfl⟩ := Catalog.ofModels_eq_ok.1 hcatalog
    have hpicks := Catalog.root_eq_ok.1 hroot
    obtain ⟨hacyclic, hsound⟩ := (Catalog.exists_resolve_iff hpicks.mem).1 ⟨schema, hschema⟩
    refine ⟨hdeclared, RootSelection.exists_iff.2 ⟨root, hpicks⟩, fun root' hpicks' => ?_,
      fun root' hpicks' => ?_⟩
    all_goals
      have hroot' := Catalog.root_eq_ok.2 hpicks'
      rw [hroot] at hroot'
      cases hroot'
    · exact hacyclic
    · exact hsound
  · rintro ⟨hdeclared, hexists, hacyclic, hsound⟩
    obtain ⟨root, hpicks⟩ := RootSelection.exists_iff.1 hexists
    let catalog : Catalog := ⟨models, Model.checkAll_eq_ok.2 hdeclared⟩
    have hmem : root ∈ catalog.models := hpicks.mem
    obtain ⟨schema, hschema⟩ := (Catalog.exists_resolve_iff hmem).2
      ⟨hacyclic root hpicks, hsound root hpicks⟩
    exact ⟨(root.name, schema), catalog, Catalog.ofModels_eq_ok.2 ⟨hdeclared, rfl⟩, root,
      Catalog.root_eq_ok.2 hpicks, (), rfl, schema, hschema, rfl⟩

end ModelSchema
