import ModelSchema.Proofs.Relocation
import ModelSchema.Proofs.Shape

set_option autoImplicit false

/-!
# Resolution elsewhere

Positions are carried along by the checks of declared models and by their expansion, and never
looked at: models that differ in their positions alone are resolved alike.

## Main definitions

* `CompileError.SameCause` — errors that differ in their position at most.

## Main results

* `Model.agree_checkAll` — models that differ in their positions alone pass the checks together, or
  fail alike.
* `agree_resolveRoot` — they have the same root with the same schema, or fail alike.
-/

namespace ModelSchema

open Outcome

/-! ## Checks elsewhere -/

/-- Errors that differ in their position at most. -/
def CompileError.SameCause (e e' : CompileError) : Prop :=
  e.unplaced = e'.unplaced

namespace Model

/-- The check of names agrees for models with the same names. -/
lemma agree_checkNames {models models' : List Model}
    (h : List.Forall₂ (fun m m' => m.name = m'.name) models models') (seen : List String) :
    Agree CompileError.SameCause Eq (checkNames seen models) (checkNames seen models') := by
  induction h generalizing seen with
  | nil => exact .ok rfl
  | cons hname _ ih =>
    rw [checkNames, checkNames, hname]
    split
    · exact .error rfl
    split
    · exact .error rfl
    · exact ih _

/-- The check of fields agrees for fields that differ only in their positions. -/
lemma agree_checkFields {fields fields' : List Field}
    (h : List.Forall₂ (fun f f' => f.unplaced = f'.unplaced) fields fields')
    (declared : List String) (model : String) (seen : List String) :
    Agree CompileError.SameCause Eq (checkFields declared model seen fields)
      (checkFields declared model seen fields') := by
  induction h generalizing seen with
  | nil => exact .ok rfl
  | @cons field field' fields fields' hfield _ ih =>
    obtain ⟨hname, -, htype, -, -⟩ := Field.mk.inj hfield
    rw [checkFields, checkFields, hname, htype]
    split
    · exact .error rfl
    split
    · exact ih _
    split
    · exact ih _
    · exact .error rfl

/-- Models that differ in their positions alone pass the checks together, or fail alike. -/
lemma agree_checkAll {models models' : List Model}
    (h : models.map unplaced = models'.map unplaced) :
    Agree CompileError.SameCause Eq (checkAll models) (checkAll models') := by
  have hmodels := map_eq_map_iff_forall₂.1 h
  have hname {m m' : Model} (hm : m.unplaced = m'.unplaced) : m.name = m'.name := (mk.inj hm).1
  have hfields {m m' : Model} (hm : m.unplaced = m'.unplaced) :
      m.fields.map Field.unplaced = m'.fields.map Field.unplaced := (mk.inj hm).2.2
  have hnames : models.map name = models'.map name :=
    map_eq_map_iff_forall₂.2 (hmodels.imp fun _ _ hm => hname hm)
  rw [checkAll, checkAll, hnames]
  refine (agree_checkNames (hmodels.imp fun _ _ hm => hname hm) []).bind fun _ _ _ => ?_
  refine Agree.forM hmodels fun m m' hm => ?_
  rw [hname hm]
  exact agree_checkFields (map_eq_map_iff_forall₂.1 (hfields hm)) _ _ _

end Model

/-! ## Resolution elsewhere -/

/-- Errors that are alike as far as every name of a model corresponds to itself are the same but for
their positions. -/
lemma CompileError.Alike.unplaced_eq {R : String → String → Prop} {e e' : CompileError}
    (h : e.Alike R e') (names : ∀ a b, R a b → a = b) : e.SameCause e' := by
  cases h with
  | recursiveNesting hnames =>
    have hpath := hnames.imp names
    rw [List.forall₂_eq_eq_eq] at hpath
    rw [hpath]
    rfl
  | illegalArguments | invertedBounds => rfl

namespace Catalog

variable {models models' : List Model}

/-- Models that differ in their positions alone make catalogs together, or fail alike. -/
lemma agree_ofModels (h : models.map Model.unplaced = models'.map Model.unplaced) :
    Agree CompileError.SameCause (fun c c' => c.models = models ∧ c'.models = models')
      (ofModels models) (ofModels models') := by
  have hcheck := Model.agree_checkAll h
  unfold ofModels
  split
  · next hx =>
    split
    · exact .ok ⟨rfl, rfl⟩
    · next hy =>
      rw [hx, hy] at hcheck
      cases hcheck
  · next hx =>
    rw [hx] at hcheck
    split
    · next hy =>
      rw [hy] at hcheck
      cases hcheck
    · next hy =>
      rw [hy] at hcheck
      cases hcheck with
      | error he => exact .error he

/-- Selections pick models that differ in their positions alone, or fail together. -/
lemma agree_root {c c' : Catalog} (h : c.models.map Model.unplaced = c'.models.map Model.unplaced)
    (selection : RootSelection) :
    Agree CompileError.SameCause
      (fun m m' => m ∈ c.models ∧ m' ∈ c'.models ∧ m.unplaced = m'.unplaced)
      (c.root selection) (c'.root selection) := by
  have picked (e : CompileError) (o o' : Option Model) :
      o.map Model.unplaced = o'.map Model.unplaced →
      (∀ m, o = some m → m ∈ c.models) → (∀ m, o' = some m → m ∈ c'.models) →
      Agree CompileError.SameCause
        (fun m m' => m ∈ c.models ∧ m' ∈ c'.models ∧ m.unplaced = m'.unplaced)
        (o.elim (.error e) .ok) (o'.elim (.error e) .ok) := by
    intro ho hmem hmem'
    rcases o with _ | m <;> rcases o' with _ | m'
    · exact .error rfl
    · cases ho
    · cases ho
    · exact .ok ⟨hmem m rfl, hmem' m' rfl, Option.some.inj ho⟩
  cases selection with
  | last =>
    have hroot (c : Catalog) :
        c.root .last = c.models.getLast?.elim (.error .emptyDocument) .ok := by
      rw [Catalog.root]
      cases c.models.getLast? <;> rfl
    rw [hroot, hroot]
    refine picked .emptyDocument _ _ ?_
      (fun _ => List.mem_of_getLast?) fun _ => List.mem_of_getLast?
    rw [← List.getLast?_map, ← List.getLast?_map, h]
  | named name =>
    have hroot (c : Catalog) : c.root (.named name) =
        (c.model? name).elim (.error (.unknownRoot name)) .ok := by
      rw [Catalog.root]
      cases c.model? name <;> rfl
    rw [hroot, hroot]
    refine picked (.unknownRoot name) _ _ ?_ (fun _ => List.mem_of_find?_eq_some)
      fun _ => List.mem_of_find?_eq_some
    have hfind := congrArg (List.find? fun m => m.name == name) h
    rwa [List.find?_map, List.find?_map] at hfind

/-- Models that differ in their positions alone are resolved alike. -/
lemma agree_resolve {c c' : Catalog}
    (h : c.models.map Model.unplaced = c'.models.map Model.unplaced) {root root' : Model}
    (hroot : root ∈ c.models) (hroot' : root' ∈ c'.models) (heq : root.unplaced = root'.unplaced) :
    Agree CompileError.SameCause Eq (c.resolve root).outcome (c'.resolve root').outcome := by
  have copied : ∀ model ∈ c.models, Model.Reaches c.models root.name model.name →
      ∃ copy ∈ c'.models, (model.rename id).unplaced = copy.unplaced := by
    intro model hmodel _
    have hmem : model.unplaced ∈ c'.models.map Model.unplaced := h ▸ List.mem_map_of_mem hmodel
    obtain ⟨copy, hcopy, hsame⟩ := List.mem_map.1 hmem
    exact ⟨copy, hcopy, by rw [Model.rename_id, hsame]⟩
  have hc :=
    Correspondence.of_copies (List.mem_map_of_mem hroot) (fun _ _ _ _ hsame => hsame) copied
  have hname : root'.name = root.name := (Model.mk.inj heq).1.symm
  exact (hc.agree_resolve hroot hroot' ⟨.refl, hname⟩).imp
    (fun _ _ he => he.unplaced_eq fun _ _ hab => hab.2.symm) fun _ _ hs => hs

end Catalog

/-- Models that differ in their positions alone have the same root with the same schema, or fail
alike. -/
theorem agree_resolveRoot {models models' : List Model}
    (h : models.map Model.unplaced = models'.map Model.unplaced) (selection : RootSelection) :
    Agree CompileError.SameCause Eq (resolveRoot models selection).outcome
      (resolveRoot models' selection).outcome := by
  rw [resolveRoot_outcome, resolveRoot_outcome]
  refine (Catalog.agree_ofModels h).bind ?_
  rintro c c' ⟨rfl, rfl⟩
  refine (Catalog.agree_root h selection).bind ?_
  rintro root root' ⟨hroot, hroot', heq⟩
  refine (Catalog.agree_resolve h hroot hroot' heq).bind fun schema schema' hs => ?_
  rw [hs, (Model.mk.inj heq).1]
  exact .ok rfl

end ModelSchema
