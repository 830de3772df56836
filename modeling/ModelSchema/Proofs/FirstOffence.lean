import ModelSchema.Proofs.Cycles

set_option autoImplicit false

/-!
# The first offence of declared models

Models are checked before any of them is expanded, and what is reported is their first offence: the
names of all models come first, and then the fields of all models, each part in the order of
declaration. What has been checked does not go wrong later: the expansion of a model fails for other
reasons.

## Main definitions

* `Model.HasReservedName`, `Model.WellNamed`, `Model.WellTyped` — a reserved name, models whose
  names are free and distinct, fields whose names are distinct and whose types are declared.
* `Model.FirstOffence` — the first offence of a list of models.
* `CompileError.IsOffence` — errors that only the checks report.

## Main results

* `Model.checkNames_nil_eq_ok`, `Model.checkFields_nil_eq_ok` — what passes the checks.
* `Model.checkAll_eq_error_iff` — the checks fail with the first offence.
* `Catalog.not_isOffence_of_resolve` — an expansion does not.
* `Catalog.ofModels_reports_first_offence` — both together.
-/

namespace ModelSchema

namespace Model

/-! ## What is checked -/

/-- The name of a model means something else: it is that of a primitive kind, or it spells a
literal. -/
def HasReservedName (model : Model) : Prop :=
  (∃ kind : FieldKind, model.name = kind.name) ∨ model.name ∈ ["null", "true", "false"]

/-- No model has a reserved name, and no two of them have the same name. -/
structure WellNamed (models : List Model) : Prop where
  notReserved : ∀ model ∈ models, ¬ model.HasReservedName
  distinct : (models.map Model.name).Nodup

/-- No two fields have the same name, and each of them that holds a model holds one that is among
the models. -/
structure WellTyped (models : List Model) (fields : List Field) : Prop where
  distinct : (fields.map Field.name).Nodup
  declared : ∀ field ∈ fields, ∀ type, field.type.base = .model type → type ∈ models.map Model.name

/-- The first offence of models. In the order of declaration, each model may have a reserved name,
or else that of an earlier model. If none has, each field in the order of declaration may have the
name of an earlier field of its model, or else hold a model that is not among all the models. -/
inductive FirstOffence (models : List Model) : CompileError → Prop where
  | reservedName {earlier later : List Model} {model : Model}
      (split : models = earlier ++ model :: later)
      (before : WellNamed earlier) (reserved : model.HasReservedName) :
      FirstOffence models (.reservedName model.name model.position)
  | duplicateModel {earlier later : List Model} {model : Model}
      (split : models = earlier ++ model :: later)
      (before : WellNamed earlier) (free : ¬ model.HasReservedName)
      (again : model.name ∈ earlier.map Model.name) :
      FirstOffence models (.duplicateModel model.name model.position)
  | duplicateField {earlier later : List Model} {model : Model} {done rest : List Field}
      {field : Field} (named : WellNamed models) (split : models = earlier ++ model :: later)
      (before : ∀ m ∈ earlier, WellTyped models m.fields)
      (fields : model.fields = done ++ field :: rest)
      (inside : WellTyped models done) (again : field.name ∈ done.map Field.name) :
      FirstOffence models (.duplicateField model.name field.name field.position)
  | undefinedType {earlier later : List Model} {model : Model} {done rest : List Field}
      {field : Field} {type : String}
      (named : WellNamed models) (split : models = earlier ++ model :: later)
      (before : ∀ m ∈ earlier, WellTyped models m.fields)
      (fields : model.fields = done ++ field :: rest)
      (inside : WellTyped models done) (new : field.name ∉ done.map Field.name)
      (base : field.type.base = .model type) (missing : type ∉ models.map Model.name) :
      FirstOffence models (.undefinedType type field.name field.position)

variable {models : List Model} {e : CompileError}

/-- The check of a name finds the reserved names. -/
lemma isReserved_iff {model : Model} : isReserved model.name = true ↔ model.HasReservedName := by
  rw [← not_iff_not, Bool.not_eq_true, isReserved_eq_false, HasReservedName, not_or, not_exists]

/-- The check of a name passes the names that are not reserved. -/
lemma isReserved_eq_false_iff {model : Model} :
    isReserved model.name = false ↔ ¬ model.HasReservedName := by
  rw [← isReserved_iff, Bool.not_eq_true]

/-- Models that are well declared are well named. -/
lemma WellDeclared.wellNamed (h : WellDeclared models) : WellNamed models :=
  ⟨fun m hm => isReserved_eq_false_iff.1 (isReserved_eq_false.2 (h.notReserved m hm)), h.names⟩

/-- The names of models pass when they are free and distinct. -/
lemma checkNames_nil_eq_ok : checkNames [] models = .ok () ↔ WellNamed models := by
  rw [checkNames_eq_ok]
  simp only [isReserved_eq_false_iff]
  exact ⟨fun ⟨hfree, hdistinct, _⟩ => ⟨hfree, hdistinct⟩, fun h =>
    ⟨h.notReserved, h.distinct, by simp⟩⟩

/-- The fields of a model pass when their names are distinct and their types are declared. -/
lemma checkFields_nil_eq_ok {name : String} {fields : List Field} :
    checkFields (models.map Model.name) name [] fields = .ok () ↔ WellTyped models fields := by
  rw [checkFields_eq_ok]
  exact ⟨fun ⟨hdistinct, _, hdeclared⟩ => ⟨hdistinct, hdeclared⟩, fun h =>
    ⟨h.distinct, by simp, h.declared⟩⟩

/-- A name that is that of a kind is not declared where names are free. -/
lemma WellNamed.kindName_not_mem (h : WellNamed models) (kind : FieldKind) :
    kind.name ∉ models.map Model.name := by
  intro hmem
  obtain ⟨model, hmodel, hname⟩ := List.mem_map.1 hmem
  exact h.notReserved model hmodel (.inl ⟨kind, hname⟩)

/-! ## The first offence -/

/-- The names of models fail with the first one that is reserved or taken. -/
lemma checkNames_nil_eq_error : checkNames [] models = .error e ↔
    ∃ earlier model later, models = earlier ++ model :: later ∧ WellNamed earlier ∧
      (model.HasReservedName ∧ e = .reservedName model.name model.position ∨
        ¬ model.HasReservedName ∧ model.name ∈ earlier.map Model.name ∧
          e = .duplicateModel model.name model.position) := by
  simp only [checkNames_eq_error, checkNames_nil_eq_ok, isReserved_iff, isReserved_eq_false_iff,
    List.append_nil]

/-- The fields of a model fail with the first one whose name is taken or whose type is not
declared. -/
lemma checkFields_nil_eq_error {name : String} {fields : List Field} :
    checkFields (models.map Model.name) name [] fields = .error e ↔
      ∃ done field rest, fields = done ++ field :: rest ∧ WellTyped models done ∧
        (field.name ∈ done.map Field.name ∧ e = .duplicateField name field.name field.position ∨
          field.name ∉ done.map Field.name ∧ ∃ type, field.type.base = .model type ∧
            type ∉ models.map Model.name ∧ e = .undefinedType type field.name field.position) := by
  simp only [checkFields_eq_error, checkFields_nil_eq_ok, List.append_nil]

/-- The checks fail with the first offence, and with no other error. -/
theorem checkAll_eq_error_iff : checkAll models = .error e ↔ FirstOffence models e := by
  rw [checkAll_eq_error, checkNames_nil_eq_error, checkNames_nil_eq_ok]
  simp only [checkFields_nil_eq_ok, checkFields_nil_eq_error]
  constructor
  · rintro (⟨earlier, model, later, split, before, ⟨reserved, rfl⟩ | ⟨free, again, rfl⟩⟩ |
      ⟨named, earlier, model, later, split, before, done, field, rest, fields, inside,
        ⟨again, rfl⟩ | ⟨new, type, base, missing, rfl⟩⟩)
    · exact .reservedName split before reserved
    · exact .duplicateModel split before free again
    · exact .duplicateField named split before fields inside again
    · exact .undefinedType named split before fields inside new base missing
  · rintro (⟨split, before, reserved⟩ | ⟨split, before, free, again⟩ | ⟨named, split, before,
      fields, inside, again⟩ | ⟨named, split, before, fields, inside, new, base, missing⟩)
    · exact .inl ⟨_, _, _, split, before, .inl ⟨reserved, rfl⟩⟩
    · exact .inl ⟨_, _, _, split, before, .inr ⟨free, again, rfl⟩⟩
    · exact .inr ⟨named, _, _, _, split, before, _, _, _, fields, inside, .inl ⟨again, rfl⟩⟩
    · exact .inr ⟨named, _, _, _, split, before, _, _, _, fields, inside,
        .inr ⟨new, _, base, missing, rfl⟩⟩

end Model

/-! ## Expansion afterwards -/

/-- An error that is an offence of declared models: a type that is not declared, a second model or
field of a name, or a reserved name. -/
def CompileError.IsOffence : CompileError → Prop
  | .undefinedType .. | .duplicateModel .. | .duplicateField .. | .reservedName .. => True
  | _ => False

namespace Catalog

variable {catalog : Catalog} {model : Model} {e : CompileError}

/-- The expansion of a model that has been checked does not fail with an offence.

**Proof sketch.** It fails with a cycle or with a field that is not sound. -/
lemma not_isOffence_of_resolve (hmodel : model ∈ catalog.models)
    (he : (catalog.resolve model).outcome = .error e) : ¬ e.IsOffence := by
  have hreached : ∀ x ∈ [model.name], Model.Reaches catalog.models model.name x := by
    intro x hx
    rw [List.mem_singleton.1 hx]
  rw [resolve_eq] at he
  rcases expandFrom_error_cases (IsPath.single hmodel) hreached he with
    ⟨report, position, rfl, -⟩ | ⟨-, -, -, field, -, -, base, hsettle⟩
  · exact id
  · rcases Field.settle_error hsettle with ⟨d, -, -, rule, rfl⟩ | ⟨lo, hi, -, rfl⟩
    · exact id
    · exact id

/-- **The checks report the first offence, and no offence is left for later.** A list of models
makes no catalog because of its first offence, which is the error; a field that holds a model with
the name of a kind is always one. And where it makes a catalog, no model of it fails to be expanded
because of an offence.

**Proof sketch.** The checks go through the models twice. Each time the models and fields before the
one that fails have passed, and what has passed is said without the order of the checks. -/
theorem ofModels_reports_first_offence (models : List Model) :
    (∀ e, ofModels models = .error e ↔ Model.FirstOffence models e) ∧
    (∀ model ∈ models, ∀ field ∈ model.fields, ∀ kind : FieldKind,
      field.type.base = .model kind.name → ∃ e, Model.FirstOffence models e) ∧
    ∀ catalog, ofModels models = .ok catalog → ∀ model ∈ catalog.models, ∀ e,
      (catalog.resolve model).outcome = .error e → ¬ e.IsOffence := by
  have first (e : CompileError) : ofModels models = .error e ↔ Model.FirstOffence models e := by
    rw [ofModels_eq_error, Model.checkAll_eq_error_iff]
  refine ⟨first, ?_, fun catalog _ model hmodel e he => not_isOffence_of_resolve hmodel he⟩
  intro model hmodel field hfield kind hbase
  cases hcheck : ofModels models with
  | error e => exact ⟨e, (first e).1 hcheck⟩
  | ok catalog =>
    obtain ⟨hdeclared, -⟩ := ofModels_eq_ok.1 hcheck
    exact absurd (hdeclared.declared model hmodel field hfield kind.name hbase)
      (hdeclared.wellNamed.kindName_not_mem kind)

/-! ### Several offences -/

namespace Faults

/-- A model with two fields of one name, the second of which holds a model that has the name of a
kind. -/
def first : Model :=
  ⟨"First", ⟨1, 7⟩, [⟨"x", ⟨1, 15⟩, { base := .primitive .number }, [], false⟩,
    ⟨"x", ⟨1, 26⟩, { base := .model "date" }, [], false⟩]⟩

/-- A model with a reserved name. -/
def reserved : Model :=
  ⟨"null", ⟨2, 7⟩, []⟩

/-- A model with a reference to itself. -/
def looped : Model :=
  ⟨"Loop", ⟨3, 7⟩, [⟨"next", ⟨3, 14⟩, { base := .model "Loop" }, [], false⟩]⟩

end Faults

/-- A reserved name is the first offence, although an earlier model has fields that offend; without
it these are reported; and a cycle is no offence. -/
theorem ofModels_reports_first_offence_faults :
    Model.FirstOffence [Faults.first, Faults.reserved] (.reservedName "null" ⟨2, 7⟩) ∧
      Model.FirstOffence [Faults.first] (.duplicateField "First" "x" ⟨1, 26⟩) ∧
      (∃ e, Model.FirstOffence [Faults.reserved, Faults.first] e) ∧
      ∃ catalog, ofModels [Faults.looped] = .ok catalog ∧ Faults.looped ∈ catalog.models ∧
        ∃ e, (catalog.resolve Faults.looped).outcome = .error e ∧ ¬ e.IsOffence := by
  refine ⟨((ofModels_reports_first_offence _).1 _).1 (ofModels_eq_error.2 (by decide)),
    ((ofModels_reports_first_offence _).1 _).1 (ofModels_eq_error.2 (by decide)), ?_, ?_⟩
  · have hfirst : Faults.first ∈ [Faults.reserved, Faults.first] :=
      List.mem_cons_of_mem _ List.mem_cons_self
    exact (ofModels_reports_first_offence _).2.1 _ hfirst _
      (List.mem_cons_of_mem _ List.mem_cons_self) .date rfl
  · have hcatalog : ofModels [Faults.looped] = .ok ⟨[Faults.looped], by decide⟩ :=
      ofModels_eq_ok.2 ⟨Model.checkAll_eq_ok.1 (by decide), rfl⟩
    have hresolve : (Catalog.resolve ⟨[Faults.looped], by decide⟩ Faults.looped).outcome =
        .error (.recursiveNesting ["Loop", "Loop"] ⟨3, 14⟩) := by decide +kernel
    exact ⟨_, hcatalog, List.mem_cons_self, _, hresolve,
      (ofModels_reports_first_offence _).2.2 _ hcatalog _ List.mem_cons_self _ hresolve⟩

end Catalog

end ModelSchema
