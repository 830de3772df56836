import Mathlib.Data.List.Nodup
import Mathlib.Logic.Relation
import ModelSchema.Catalog.Basic
import ModelSchema.Proofs.Outcome

set_option autoImplicit false

/-!
# Declarations and the references between them

What is checked before any model is expanded, said without the order of the checks, and the graph
whose edges are the fields that hold a model.

## Main definitions

* `Model.WellDeclared` — a list of models has free and distinct names, distinct field names in each
  model, and no reference to a model that is not declared.
* `Model.Refers` — a model of one name has a field that holds the model of another.
* `Model.Reaches` — a chain of references leads from one name to another.

## Main results

* `Model.checkAll_eq_ok` — the checks pass exactly for well-declared models.
* `Model.checkNames_eq_error`, `Model.checkFields_eq_error`, `Model.checkAll_eq_error` — the offence
  that is reported.
* `Catalog.model?_eq_some` — a model is found under its name.
* `Catalog.exists_model?_of_base` — what a declared field holds is declared.
-/

namespace ModelSchema

namespace Model

/-! ## The static checks -/

/-- What is required of models without expanding them. -/
structure WellDeclared (models : List Model) : Prop where
  notReserved : ∀ model ∈ models,
    (∀ kind : FieldKind, model.name ≠ kind.name) ∧ model.name ∉ ["null", "true", "false"]
  names : (models.map Model.name).Nodup
  fieldNames : ∀ model ∈ models, (model.fields.map Field.name).Nodup
  declared : ∀ model ∈ models, ∀ field ∈ model.fields, ∀ type,
    field.type.base = .model type → type ∈ models.map Model.name

/-- A name is free when it is that of no primitive type and none of the three words. -/
lemma isReserved_eq_false {name : String} :
    isReserved name = false ↔
      (∀ kind : FieldKind, name ≠ kind.name) ∧ name ∉ ["null", "true", "false"] := by
  have hkind : (FieldKind.ofName? name).isSome = false ↔ ∀ kind : FieldKind, name ≠ kind.name := by
    rw [← Bool.not_eq_true, Option.isSome_iff_exists]
    simp only [FieldKind.ofName?_eq_some_iff, not_exists, ne_eq, eq_comm (a := name)]
  rw [isReserved, Bool.or_eq_false_iff, hkind, ← Bool.not_eq_true (literalNames.contains name),
    List.contains_iff_mem]
  rfl

/-- Names pass when none is reserved, none occurs twice and none has been seen. -/
lemma checkNames_eq_ok {seen : List String} {models : List Model} :
    checkNames seen models = .ok () ↔
      (∀ model ∈ models, isReserved model.name = false) ∧ (models.map Model.name).Nodup ∧
        ∀ model ∈ models, model.name ∉ seen := by
  induction models generalizing seen with
  | nil => simp [checkNames]
  | cons model models ih =>
    unfold checkNames
    by_cases hr : isReserved model.name = true
    · simp [hr]
    by_cases hs : model.name ∈ seen
    · simp [hr, hs]
    rw [if_neg hr, if_neg hs, ih]
    simp only [Bool.not_eq_true] at hr
    simp only [List.forall_mem_cons, List.map_cons, List.nodup_cons, List.mem_map]
    simp only [List.mem_cons, not_or]
    constructor
    · rintro ⟨hres, hnodup, hnew⟩
      have hfresh : ¬ ∃ m ∈ models, m.name = model.name := by
        rintro ⟨m, hm, e⟩
        exact (hnew m hm).1 e
      exact ⟨⟨hr, hres⟩, ⟨hfresh, hnodup⟩, hs, fun m hm => (hnew m hm).2⟩
    · rintro ⟨⟨-, hres⟩, ⟨hfresh, hnodup⟩, -, hnew⟩
      exact ⟨hres, hnodup, fun m hm => ⟨fun e => hfresh ⟨m, hm, e⟩, hnew m hm⟩⟩

/-- Fields pass when no name occurs twice or has been seen and every type is declared. -/
lemma checkFields_eq_ok {declared : List String} {model : String} {seen : List String}
    {fields : List Field} :
    checkFields declared model seen fields = .ok () ↔
      (fields.map Field.name).Nodup ∧ (∀ field ∈ fields, field.name ∉ seen) ∧
        ∀ field ∈ fields, ∀ type, field.type.base = .model type → type ∈ declared := by
  induction fields generalizing seen with
  | nil => simp [checkFields]
  | cons field fields ih =>
    have next : checkFields declared model (field.name :: seen) fields = .ok () ∧
        field.name ∉ seen ↔
        ((field :: fields).map Field.name).Nodup ∧ (∀ f ∈ field :: fields, f.name ∉ seen) ∧
          ∀ f ∈ fields, ∀ type, f.type.base = .model type → type ∈ declared := by
      rw [ih]
      simp only [List.forall_mem_cons, List.map_cons, List.nodup_cons, List.mem_map]
      simp only [List.mem_cons, not_or]
      constructor
      · rintro ⟨⟨hnodup, hnew, hdecl⟩, hs⟩
        have hfresh : ¬ ∃ f ∈ fields, f.name = field.name := by
          rintro ⟨f, hf, e⟩
          exact (hnew f hf).1 e
        exact ⟨⟨hfresh, hnodup⟩, ⟨hs, fun f hf => (hnew f hf).2⟩, hdecl⟩
      · rintro ⟨⟨hfresh, hnodup⟩, ⟨hs, hnew⟩, hdecl⟩
        exact ⟨⟨hnodup, fun f hf => ⟨fun e => hfresh ⟨f, hf, e⟩, hnew f hf⟩, hdecl⟩, hs⟩
    unfold checkFields
    by_cases hs : field.name ∈ seen
    · simp [hs]
    rw [if_neg hs]
    cases hb : field.type.base with
    | primitive kind =>
      rw [← and_iff_left (a := checkFields declared model (field.name :: seen) fields = .ok ()) hs,
        next]
      simp [hb]
    | model type =>
      by_cases ht : type ∈ declared
      · simp only [if_pos ht]
        rw [← and_iff_left (a := checkFields declared model (field.name :: seen) fields = .ok ())
          hs, next]
        simp [hb, ht]
      · simp [hb, ht]

/-- The checks pass exactly for well-declared models. -/
theorem checkAll_eq_ok {models : List Model} : checkAll models = .ok () ↔ WellDeclared models := by
  unfold checkAll
  rw [Outcome.bind_eq_ok]
  simp only [Outcome.forM_eq_ok, checkFields_eq_ok]
  constructor
  · rintro ⟨⟨⟩, hnames, hfields⟩
    obtain ⟨hres, hnodup, -⟩ := checkNames_eq_ok.1 hnames
    exact ⟨fun m hm => isReserved_eq_false.1 (hres m hm), hnodup, fun m hm => (hfields m hm).1,
      fun m hm => (hfields m hm).2.2⟩
  · rintro ⟨hres, hnodup, hfields, hdecl⟩
    have hnames : checkNames [] models = .ok () :=
      checkNames_eq_ok.2 ⟨fun m hm => isReserved_eq_false.2 (hres m hm), hnodup, by simp⟩
    exact ⟨(), hnames, fun m hm => ⟨hfields m hm, by simp, hdecl m hm⟩⟩

/-- The names of models in a row are checked one part after another. -/
lemma checkNames_append (seen : List String) (earlier later : List Model) :
    checkNames seen (earlier ++ later) =
      checkNames seen earlier >>=
        fun _ => checkNames ((earlier.map Model.name).reverse ++ seen) later := by
  induction earlier generalizing seen with
  | nil => rfl
  | cons model earlier ih =>
    rw [List.cons_append, checkNames, checkNames]
    split
    · rfl
    split
    · rfl
    · rw [ih, List.map_cons, List.reverse_cons, List.append_assoc]
      rfl

/-- Names are not passed because of the first one that is reserved, or that an earlier model has or
that has been seen. -/
lemma checkNames_eq_error {seen : List String} {models : List Model} {e : CompileError} :
    checkNames seen models = .error e ↔
      ∃ earlier model later, models = earlier ++ model :: later ∧ checkNames seen earlier = .ok () ∧
        (isReserved model.name = true ∧ e = .reservedName model.name model.position ∨
          isReserved model.name = false ∧ model.name ∈ earlier.map Model.name ++ seen ∧
            e = .duplicateModel model.name model.position) := by
  constructor
  · intro h
    induction models generalizing seen with
    | nil => cases h
    | cons model models ih =>
      unfold checkNames at h
      split at h
      · next hr =>
        cases h
        exact ⟨[], model, models, rfl, rfl, .inl ⟨hr, rfl⟩⟩
      next hr =>
      split at h
      · next hs =>
        cases h
        exact ⟨[], model, models, rfl, rfl, .inr ⟨Bool.eq_false_iff.2 hr, hs, rfl⟩⟩
      next hs =>
      obtain ⟨earlier, model', later, rfl, hpassed, hoffence⟩ := ih h
      refine ⟨model :: earlier, model', later, rfl, ?_,
        hoffence.imp_right (And.imp_right (And.imp_left fun hn => ?_))⟩
      · rw [checkNames, if_neg hr, if_neg hs, hpassed]
      · exact List.perm_middle.mem_iff.1 hn
  · rintro ⟨earlier, model, later, rfl, hpassed, hoffence⟩
    rw [checkNames_append, hpassed, Outcome.ok_bind, checkNames]
    rcases hoffence with ⟨hr, rfl⟩ | ⟨hr, hs, rfl⟩
    · rw [if_pos hr]
    · rw [if_neg (Bool.eq_false_iff.1 hr), if_pos]
      simpa using hs

/-- The fields of a model in a row are checked one part after another. -/
lemma checkFields_append (declared : List String) (model : String) (seen : List String)
    (earlier later : List Field) :
    checkFields declared model seen (earlier ++ later) =
      checkFields declared model seen earlier >>= fun _ =>
        checkFields declared model ((earlier.map Field.name).reverse ++ seen) later := by
  induction earlier generalizing seen with
  | nil => rfl
  | cons field earlier ih =>
    have next : checkFields declared model (field.name :: seen) (earlier ++ later) =
        checkFields declared model (field.name :: seen) earlier >>= fun _ =>
          checkFields declared model (((field :: earlier).map Field.name).reverse ++ seen)
            later := by
      rw [ih, List.map_cons, List.reverse_cons, List.append_assoc]
      rfl
    rw [List.cons_append, checkFields, checkFields]
    split
    · rfl
    split
    · exact next
    split
    · exact next
    · rfl

/-- Fields are not passed because of the first one with the name of an earlier one or one that has
been seen, or whose type is not declared. -/
lemma checkFields_eq_error {declared : List String} {model : String} {seen : List String}
    {fields : List Field} {e : CompileError} :
    checkFields declared model seen fields = .error e ↔
      ∃ earlier field later, fields = earlier ++ field :: later ∧
        checkFields declared model seen earlier = .ok () ∧
        (field.name ∈ earlier.map Field.name ++ seen ∧
          e = .duplicateField model field.name field.position ∨
          field.name ∉ earlier.map Field.name ++ seen ∧ ∃ type, field.type.base = .model type ∧
            type ∉ declared ∧ e = .undefinedType type field.name field.position) := by
  constructor
  · intro h
    induction fields generalizing seen with
    | nil => cases h
    | cons field fields ih =>
      rw [← List.singleton_append, checkFields_append] at h
      rcases Outcome.bind_eq_error.1 h with h | ⟨_, hpassed, h⟩
      · refine ⟨[], field, fields, rfl, rfl, ?_⟩
        unfold checkFields at h
        split at h
        · next hs =>
          cases h
          exact .inl ⟨hs, rfl⟩
        next hs =>
        split at h
        · cases h
        next type hb =>
        split at h
        · cases h
        next ht =>
        cases h
        exact .inr ⟨hs, type, hb, ht, rfl⟩
      · obtain ⟨earlier, field', later, rfl, hearlier, hoffence⟩ := ih h
        have hseen : field'.name ∈ earlier.map Field.name ++
            (([field].map Field.name).reverse ++ seen) ↔
            field'.name ∈ (field :: earlier).map Field.name ++ seen := List.perm_middle.mem_iff
        rw [hseen] at hoffence
        refine ⟨field :: earlier, field', later, rfl, ?_, hoffence⟩
        rw [← List.singleton_append, checkFields_append, hpassed, Outcome.ok_bind, hearlier]
  · rintro ⟨earlier, field, later, rfl, hpassed, hoffence⟩
    have hseen : field.name ∈ (earlier.map Field.name).reverse ++ seen ↔
        field.name ∈ earlier.map Field.name ++ seen := by simp
    rw [checkFields_append, hpassed, Outcome.ok_bind, checkFields]
    rcases hoffence with ⟨hs, rfl⟩ | ⟨hs, type, hb, ht, rfl⟩
    · rw [if_pos (hseen.2 hs)]
    · rw [if_neg (mt hseen.1 hs), hb]
      exact if_neg ht

/-- Models are not passed because of their names, or else because of the fields of the first one
whose fields are not passed. -/
lemma checkAll_eq_error {models : List Model} {e : CompileError} :
    checkAll models = .error e ↔ checkNames [] models = .error e ∨ checkNames [] models = .ok () ∧
      ∃ earlier model later, models = earlier ++ model :: later ∧
        (∀ m ∈ earlier, checkFields (models.map Model.name) m.name [] m.fields = .ok ()) ∧
          checkFields (models.map Model.name) model.name [] model.fields = .error e := by
  unfold checkAll
  rw [Outcome.bind_eq_error, Outcome.forM_eq_error]
  exact or_congr_right ⟨fun ⟨_, h⟩ => h, fun h => ⟨(), h⟩⟩

/-! ## References -/

/-- The model of one name has a field that holds the model of another. -/
def Refers (models : List Model) (source target : String) : Prop :=
  ∃ model ∈ models, model.name = source ∧ ∃ field ∈ model.fields, field.type.base = .model target

/-- A chain of references, possibly empty, leads from one name to another. -/
abbrev Reaches (models : List Model) : String → String → Prop :=
  Relation.ReflTransGen (Refers models)

/-- A chain of references leads from a name back to itself. -/
def OnCycle (models : List Model) (name : String) : Prop :=
  Relation.TransGen (Refers models) name name

end Model

namespace Catalog

variable {catalog : Catalog} {model : Model} {name : String}

/-- The models of a catalog are well declared. -/
lemma wellDeclared (catalog : Catalog) : Model.WellDeclared catalog.models :=
  Model.checkAll_eq_ok.1 catalog.checked

/-- The names of the models of a catalog are distinct, so that a name tells a model. -/
lemma eq_of_name_eq {model' : Model} (h : model ∈ catalog.models) (h' : model' ∈ catalog.models)
    (e : model.name = model'.name) : model = model' :=
  List.inj_on_of_nodup_map catalog.wellDeclared.names h h' e

/-- A model is found under its name. -/
lemma model?_eq_some :
    catalog.model? name = some model ↔ model ∈ catalog.models ∧ model.name = name := by
  unfold model?
  constructor
  · intro h
    exact ⟨List.mem_of_find?_eq_some h, by simpa using List.find?_some h⟩
  · rintro ⟨hm, rfl⟩
    rcases h : catalog.models.find? (·.name == model.name) with _ | found
    · exact absurd (List.find?_eq_none.1 h model hm) (by simp)
    · have hf := List.find?_some h
      rw [h, eq_of_name_eq (List.mem_of_find?_eq_some h) hm (by simpa using hf)]

/-- What a declared field holds is declared. -/
lemma exists_model?_of_base {field : Field} (hm : model ∈ catalog.models)
    (hf : field ∈ model.fields) (hb : field.type.base = .model name) :
    ∃ next, catalog.model? name = some next := by
  obtain ⟨next, hn, rfl⟩ := List.mem_map.1 (catalog.wellDeclared.declared model hm field hf name hb)
  exact ⟨next, model?_eq_some.2 ⟨hn, rfl⟩⟩

/-- The catalog of well-declared models, and of no others. -/
lemma ofModels_eq_ok {models : List Model} :
    ofModels models = .ok catalog ↔ Model.WellDeclared models ∧ catalog.models = models := by
  rw [← Model.checkAll_eq_ok]
  unfold ofModels
  split
  · next h =>
    constructor
    · rintro ⟨⟩
      exact ⟨h, rfl⟩
    · rintro ⟨-, rfl⟩
      rfl
  · next e h => simp [h]

/-- Models make no catalog when they are not passed. -/
lemma ofModels_eq_error {models : List Model} {e : CompileError} :
    ofModels models = .error e ↔ Model.checkAll models = .error e := by
  unfold ofModels
  split <;> next h => simp [h]

end Catalog

end ModelSchema
