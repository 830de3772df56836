import Mathlib.Data.List.Forall2
import ModelSchema.Proofs.Reading
import ModelSchema.Proofs.Scanning
import ModelSchema.Proofs.Substitution

set_option autoImplicit false

/-!
# Canonical schemas

The schemas that a document can have are few among all schemas: the description of a field has the
shape that the declaration of the field gives it, at every depth, whatever its decorators say.

## Main definitions

* `FieldType.IsSpelled` — a type whose union, if it has one, can be written.
* `Field.IsCanonical` — a description has the shape that the declaration of the field gives it.
* `Schema.Canonical` — the descriptions of fields are canonical at every depth.

## Main results

* `Field.isCanonical_of_settle` — a field that is settled has a canonical description.
* `Catalog.canonical_of_expandFrom` — a model that is expanded has a canonical schema.
* `compile_is_canonical` — every schema of a document is canonical.
-/

namespace ModelSchema

open Outcome

/-! ## The rules -/

/-- A union has a member at least, and it is a type of strings without brackets. -/
structure FieldType.IsSpelled (type : FieldType) : Prop where
  base : type.union.isSome → type.base = .primitive .string
  single : type.union.isSome → type.isArray = false
  nonempty : type.union ≠ some []

/-- A description has members when it is that of an object which is obtained from a model, and an
array without elements is obtained from the primitive array. -/
structure FieldSchema.IsOf (base : BaseType) (s : FieldSchema) : Prop where
  fields : s.fields.isSome ↔ s.kind = .object ∧ ∃ name, base = .model name
  bare : s.kind = .array → s.item = none → base = .primitive .array

/-- A description that says no more than what a value is made of, which has to be there. -/
structure FieldSchema.IsPlain (s : FieldSchema) : Prop where
  required : s.required = true
  min : s.min = none
  max : s.max = none
  choices : s.choices = none
  nullable : s.nullable = false
  hidden : s.hidden = false
  marked : s.marked = false
  initial : s.initial = none

/-- A description has the shape that the declaration of the field gives it. -/
structure Field.IsCanonical (field : Field) (s : FieldSchema) : Prop where
  shape : s.IsOf field.type.base
  /-- Exactly an array that is declared with brackets has elements. -/
  item : s.item.isSome ↔ field.type.isArray = true
  array : s.item.isSome → s.kind = .array
  /-- Elements are no arrays with brackets themselves, and nothing is said about them. -/
  element : ∀ item, s.item = some item → item.IsOf field.type.base ∧ item.item = none ∧ item.IsPlain
  bounds : ∀ lo hi, s.min = some lo → s.max = some hi → lo ≤ hi
  choices : s.choices ≠ some []
  union : field.type.union.isSome → s.kind = .string ∧ s.choices.isSome

/-- The members of an object are canonical: they have the names of the declared fields in order,
which are distinct, their descriptions are canonical, and so are the members of the models that they
refer to. -/
inductive Schema.Canonical (models : List Model) : List Field → Schema → Prop where
  | nil : Canonical models [] []
  | primitive {field : Field} {fields : List Field} {s : FieldSchema} {schema : Schema}
      {kind : FieldKind} (base : field.type.base = .primitive kind) (own : field.IsCanonical s)
      (distinct : field.name ∉ schema.map Prod.fst) (rest : Canonical models fields schema) :
      Canonical models (field :: fields) ((field.name, s) :: schema)
  | reference {field : Field} {fields : List Field} {s : FieldSchema} {schema members : Schema}
      {model : Model} (base : field.type.base = .model model.name) (own : field.IsCanonical s)
      (distinct : field.name ∉ schema.map Prod.fst) (declared : model ∈ models)
      (stands : field.substituted? s = some members)
      (inside : Canonical models model.fields members) (rest : Canonical models fields schema) :
      Canonical models (field :: fields) ((field.name, s) :: schema)

/-! ## Fields -/

/-- The description of a base on its own: of a kind, or of an object with members. -/
inductive BaseType.Plain : BaseType → FieldSchema → Prop where
  | primitive (kind : FieldKind) : Plain (.primitive kind) (.ofKind kind)
  | model (name : String) (members : Schema) : Plain (.model name) (.ofObject members)

namespace BaseType.Plain

variable {type : BaseType} {base : FieldSchema}

/-- A plain base is one of its type. -/
lemma isOf (h : type.Plain base) : base.IsOf type := by
  cases h with
  | primitive kind => exact ⟨by simp [FieldSchema.ofKind], fun hk _ => congrArg _ hk⟩
  | model name members => exact ⟨by simp [FieldSchema.ofObject], fun hk => by cases hk⟩

/-- A plain base does not describe elements. -/
lemma item_eq_none (h : type.Plain base) : base.item = none := by
  cases h <;> rfl

/-- A plain base stays plain when it is required. -/
lemma isPlain (h : type.Plain base) : { base with required := true }.IsPlain := by
  cases h <;> exact ⟨rfl, rfl, rfl, rfl, rfl, rfl, rfl, rfl⟩

end BaseType.Plain

namespace Field

variable {field : Field} {base s : FieldSchema}

/-- No decorator restricts a field to no literal at all. -/
lemma ne_choices_nil_of_annotation {d : Decorator} {a : Annotation}
    (h : d.annotation = .ok (some a)) : a ≠ .choices [] := by
  rintro rfl
  unfold Decorator.annotation at h
  split at h
  case h_3 =>
    obtain ⟨values, hvalues, he⟩ := map_eq_ok.1 h
    cases he
    unfold Decorator.values at hvalues
    split at hvalues
    · cases hvalues
    · next hne => exact hne (Except.ok.inj hvalues)
  case h_7 => cases h
  all_goals
    obtain ⟨_, -, he⟩ := map_eq_ok.1 h
    cases he

/-- The literals that a field is restricted to are not none, and a union stays restricted. -/
lemma choices_of_settle (htype : field.type.IsSpelled) (h : field.settle base = .ok s) :
    s.choices ≠ some [] ∧ (field.type.union.isSome → s.choices.isSome) := by
  obtain ⟨described, hannotate, hcheck⟩ := bind_eq_ok.1 h
  obtain ⟨rfl, -⟩ := checkBounds_eq_ok.1 hcheck
  have hdescribed : (field.describe base).choices = field.type.union.map (·.map .string) := by
    unfold Field.describe
    split <;> rfl
  have single (s : FieldSchema) (d : Decorator) (a : Annotation) (ha : d.annotation = .ok (some a))
      (hs : s.choices ≠ some [] ∧ (field.type.union.isSome → s.choices.isSome)) :
      (a.apply s).choices ≠ some [] ∧ (field.type.union.isSome → (a.apply s).choices.isSome) := by
    cases a with
    | choices values =>
      refine ⟨fun he => ne_choices_nil_of_annotation ha ?_, fun _ => rfl⟩
      rw [Option.some.inj he]
    | _ => exact hs
  refine annotate_invariant single ⟨fun he => ?_, fun hu => ?_⟩ hannotate
  · rw [hdescribed, Option.map_eq_some_iff] at he
    obtain ⟨members, hmembers, he⟩ := he
    exact htype.nonempty (List.map_eq_nil_iff.1 he ▸ hmembers)
  · rw [hdescribed, Option.isSome_map]
    exact hu

/-- A field that is settled has a canonical description. -/
theorem isCanonical_of_settle (hbase : field.type.base.Plain base) (htype : field.type.IsSpelled)
    (h : field.settle base = .ok s) : field.IsCanonical s := by
  obtain ⟨hkind, -, -, hitem, hfields⟩ := settle_shape h
  obtain ⟨hchoices, hunion⟩ := choices_of_settle htype h
  obtain ⟨described, -, hcheck⟩ := bind_eq_ok.1 h
  have hbounds := (checkBounds_eq_ok.1 hcheck).2
  obtain ⟨rfl, -⟩ := checkBounds_eq_ok.1 hcheck
  unfold Field.describe at hkind hitem hfields
  cases harray : field.type.isArray with
  | true =>
    rw [harray, if_pos rfl] at hkind hitem hfields
    replace hkind : s.kind = .array := hkind
    replace hitem : s.item = some { base with required := true } := hitem
    replace hfields : s.fields = none := hfields
    have hsingle : ¬ field.type.union.isSome := fun hu => by simp [htype.single hu] at harray
    refine ⟨⟨?_, ?_⟩, ?_, fun _ => hkind, ?_, hbounds, hchoices, fun hu => absurd hu hsingle⟩
    · simp [hfields, hkind]
    · simp [hitem]
    · simp [hitem, harray]
    · intro item hi
      obtain rfl := Option.some.inj (hitem.symm.trans hi)
      exact ⟨⟨hbase.isOf.fields, hbase.isOf.bare⟩, hbase.item_eq_none, hbase.isPlain⟩
  | false =>
    rw [harray, if_neg Bool.false_ne_true] at hkind hitem hfields
    replace hkind : s.kind = base.kind := hkind
    replace hitem : s.item = none := hitem.trans hbase.item_eq_none
    replace hfields : s.fields = base.fields := hfields
    refine ⟨⟨?_, ?_⟩, ?_, ?_, ?_, hbounds, hchoices, fun hu => ⟨?_, hunion hu⟩⟩
    · rw [hfields, hkind]
      exact hbase.isOf.fields
    · rw [hkind]
      exact fun hk _ => hbase.isOf.bare hk hbase.item_eq_none
    · simp [hitem, harray]
    · simp [hitem]
    · simp [hitem]
    · rw [htype.base hu] at hbase
      cases hbase
      exact hkind

end Field

/-! ## Models -/

/-- Descriptions of fields with distinct names are canonical when each of them can stand before
canonical ones. -/
lemma Schema.canonical_of_forall₂ {models : List Model} {P : Field → FieldSchema → Prop}
    {fields : List Field} {schema : Schema} (names : (fields.map Field.name).Nodup)
    (h : List.Forall₂ (fun field entry => entry.1 = field.name ∧ P field entry.2) fields schema)
    (cons : ∀ field ∈ fields, ∀ s, P field s → ∀ fields schema, field.name ∉ schema.map Prod.fst →
          Canonical models fields schema →
          Canonical models (field :: fields) ((field.name, s) :: schema)) :
    Canonical models fields schema := by
  induction h with
  | nil => exact .nil
  | @cons field entry fields schema first others ih =>
    obtain ⟨name, s⟩ := entry
    obtain ⟨rfl, hs⟩ := first
    rw [List.map_cons, List.nodup_cons] at names
    have hnames : schema.map Prod.fst = fields.map Field.name :=
      (map_eq_map_iff_forall₂.2 (others.imp fun _ _ ho => ho.1.symm)).symm
    refine cons field List.mem_cons_self s hs fields schema (hnames ▸ names.1) ?_
    exact ih names.2 fun field hf => cons field (List.mem_cons_of_mem _ hf)

namespace Catalog

variable {catalog : Catalog} {path : List String} {model : Model} {field : Field} {s : FieldSchema}

/-- The description of a field at the end of a path is canonical, and so are the members that it
refers to when those of longer paths are: it can stand before canonical descriptions.

**Proof sketch.** A primitive field is settled from its kind, and a reference from the members of
the model that it refers to. -/
lemma canonical_cons (h : catalog.IsPath path model) (hf : field ∈ model.fields)
    (htype : field.type.IsSpelled)
    (longer : ∀ name next, field.type.base = .model name → name ∉ path →
        catalog.model? name = some next →
        ∀ members, (catalog.expandFrom (path ++ [name]) next).outcome = .ok members →
          Schema.Canonical catalog.models next.fields members)
    (hs : catalog.member path field = .ok s) {fields : List Field} {schema : Schema}
    (distinct : field.name ∉ schema.map Prod.fst)
    (rest : Schema.Canonical catalog.models fields schema) :
    Schema.Canonical catalog.models (field :: fields) ((field.name, s) :: schema) := by
  cases hb : field.type.base with
  | primitive kind =>
    rw [member_of_primitive hb] at hs
    have hbase : field.type.base.Plain (.ofKind kind) := hb ▸ .primitive kind
    exact .primitive hb (Field.isCanonical_of_settle hbase htype hs) distinct rest
  | model name =>
    obtain ⟨next, members, hn, hnext, hmembers, hsettle⟩ := exists_of_member h hf hb hs
    have hbase : field.type.base.Plain (.ofObject members) := hb ▸ .model name members
    have inside := longer name next hb hn hnext members hmembers
    obtain ⟨hdeclared, rfl⟩ := model?_eq_some.1 hnext
    exact .reference hb (Field.isCanonical_of_settle hbase htype hsettle) distinct hdeclared
      (substituted?_settle hsettle) inside rest

/-- A model that is expanded has a canonical schema.

**Proof sketch.** Induction over paths, and then on the fields of the model at the end of the
path. -/
theorem canonical_of_expandFrom
    (htypes : ∀ model ∈ catalog.models, ∀ field ∈ model.fields, field.type.IsSpelled)
    (h : catalog.IsPath path model) {schema : Schema}
    (hs : (catalog.expandFrom path model).outcome = .ok schema) :
    Schema.Canonical catalog.models model.fields schema := by
  induction h using IsPath.induction generalizing schema with
  | step path model h ih =>
    rw [expandFrom_eq_ok] at hs
    refine Schema.canonical_of_forall₂ (P := fun field s => catalog.member path field = .ok s)
      (catalog.wellDeclared.fieldNames model h.mem) hs ?_
    intro field hf s hmember fields schema distinct rest
    refine canonical_cons h hf (htypes model h.mem field hf) ?_ hmember distinct rest
    intro name next hb hn hnext members hmembers
    exact ih field hf name next hb hn hnext (h.snoc hf hb hn hnext) hmembers

/-- A model of a catalog that is resolved has a canonical schema. -/
lemma canonical_of_resolve
    (htypes : ∀ model ∈ catalog.models, ∀ field ∈ model.fields, field.type.IsSpelled)
    (hmodel : model ∈ catalog.models) {schema : Schema}
    (hs : (catalog.resolve model).outcome = .ok schema) :
    Schema.Canonical catalog.models model.fields schema := by
  rw [resolve_eq] at hs
  exact canonical_of_expandFrom htypes (IsPath.single hmodel) hs

end Catalog

/-- The models that are resolved together have canonical schemas under their names. -/
lemma canonical_of_resolveModels {models : List Model} {schemas : List (String × Schema)}
    (htypes : ∀ model ∈ models, ∀ field ∈ model.fields, field.type.IsSpelled)
    (h : resolveModels models = .ok schemas) :
    List.Forall₂
      (fun model entry => entry.1 = model.name ∧ Schema.Canonical models model.fields entry.2)
      models schemas := by
  obtain ⟨catalog, hcatalog, hall⟩ := bind_eq_ok.1 h
  obtain ⟨-, rfl⟩ := Catalog.ofModels_eq_ok.1 hcatalog
  rw [Catalog.resolveAll, Traced.outcome_mapM, mapM_eq_ok] at hall
  refine (forall₂_mem hall).imp fun model entry hentry => ?_
  obtain ⟨hmodel, hentry⟩ := hentry
  rw [Traced.outcome_bind] at hentry
  obtain ⟨schema, hschema, he⟩ := bind_eq_ok.1 hentry
  cases he
  exact ⟨rfl, Catalog.canonical_of_resolve htypes hmodel hschema⟩

/-! ## Types that can be written -/

/-- A type that is written is one that can be written. -/
lemma FieldType.Derives.isSpelled {ts : List Token} {type : FieldType}
    (h : FieldType.Derives ts type) : type.IsSpelled := by
  cases h with
  | union strings =>
    refine ⟨fun _ => rfl, fun _ => rfl, fun he => ?_⟩
    cases Option.some.inj he
    generalize hmembers : ([] : List String) = members at strings
    cases strings with
    | one => cases hmembers
    | snoc => simp at hmembers
  | named => exact ⟨nofun, nofun, nofun⟩

/-- A text declares fields of types that can be written. -/
lemma Model.isSpelled_of_ofText {text : String} {models : List Model}
    (h : ofText text = .ok models) :
    ∀ model ∈ models, ∀ field ∈ model.fields, field.type.IsSpelled := by
  obtain ⟨ts, -, -, hread⟩ := exists_of_ofText h
  intro model hmodel field hfield
  obtain ⟨_, _, _, -, ⟨_, _, _, inside, _⟩⟩ := (Prefix.run_eq_ok_iff.1 hread).exists_of_mem hmodel
  obtain ⟨_, _, _, -, ⟨⟨_, _, _, typed, _⟩, _⟩⟩ := inside.exists_of_mem hfield
  exact typed.isSpelled

/-- **Every schema of a document is canonical.** Whatever root is selected, the schema that a text
is compiled to consists of canonical descriptions of the fields of the root, at every depth, and so
do the schemas of models that are resolved together, provided that their unions are such as can be
written. Those of a text are.

**Proof sketch.** What a field is made of comes from its declaration, since decorators leave that
alone. A restriction to literals is that of a union or of a decorator, neither of which is empty. -/
theorem compile_is_canonical :
    (∀ text options compilation, compile text options = .ok compilation →
      ∃ root ∈ compilation.models, root.name = compilation.root ∧
        Schema.Canonical compilation.models root.fields compilation.schema) ∧
    (∀ models schemas, (∀ model ∈ models, ∀ field ∈ model.fields, field.type.IsSpelled) →
      resolveModels models = .ok schemas →
        List.Forall₂
          (fun model entry => entry.1 = model.name ∧ Schema.Canonical models model.fields entry.2)
          models schemas) ∧
    ∀ text models, Model.ofText text = .ok models →
      ∀ model ∈ models, ∀ field ∈ model.fields, field.type.IsSpelled := by
  refine ⟨fun text options compilation h => ?_, fun models schemas => canonical_of_resolveModels,
    fun text models => Model.isSpelled_of_ofText⟩
  obtain ⟨hmodels, catalog, hcatalog, root, hroot, hname, hschema⟩ := exists_of_compile h
  rw [← hcatalog] at hmodels ⊢
  exact ⟨root, hroot, hname, Catalog.canonical_of_resolve (Model.isSpelled_of_ofText hmodels) hroot
    hschema⟩

/-! ### Members inside elements -/

namespace Album

/-- A document with an array of models and a union that is restricted once more. -/
def text : String :=
  "model Photo \x7b tags?: string[]; \x7d\n" ++
    "model Album \x7b photos: Photo[] @min(1) @max(9); kind: \"a\" | \"b\" @enum(\"a\"); \x7d"

/-- The schema of the document. -/
def schema : Schema :=
  [("photos",
      { FieldSchema.ofArray
          { FieldSchema.ofObject [("tags", .ofArray { kind := .string, required := true })] with
            required := true } with
        required := true, min := some 1, max := some 9 }),
    ("kind", { kind := .string, required := true, choices := some [.string "a"] })]

end Album

/-- The schema of an album is canonical. -/
theorem compile_is_canonical_album : ∃ compilation, compile Album.text {} = .ok compilation ∧
    compilation.schema = Album.schema ∧ ∃ root ∈ compilation.models, root.name = compilation.root ∧
      Schema.Canonical compilation.models root.fields Album.schema := by
  have hschema : compileSchema Album.text {} = .ok Album.schema := by decide +kernel
  obtain ⟨compilation, h, hs⟩ := map_eq_ok.1 hschema
  have hcanonical := compile_is_canonical.1 Album.text {} compilation h
  rw [hs] at hcanonical
  exact ⟨compilation, h, hs, hcanonical⟩

end ModelSchema
