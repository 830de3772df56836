import ModelSchema.Proofs.Agreement
import ModelSchema.Proofs.Relocation
import ModelSchema.Proofs.Substitution

set_option autoImplicit false

/-!
# Models of one shape

What a model is expanded to depends on the fields that can be reached from it alone. Models that
correspond to each other, in one catalog or in two, have the same schema, whatever their names,
wherever they stand and whatever else is declared; or they fail alike.

## Main definitions

* `Field.Alike` — fields with the same parts that hold models whose names correspond.
* `CompileError.Alike` — errors with the same cause, where names of models correspond.
* `Catalog.Correspondence` — a one-to-one correspondence between models with alike fields.
* `Model.rename` — a model with other names of models.

## Main results

* `Field.Alike.settle` — alike fields are settled alike.
* `Catalog.Correspondence.agree_expandFrom` — corresponding models at the ends of corresponding
  paths.
* `Catalog.resolve_depends_on_shape` — the schema of a root depends on the shape of what it reaches.
-/

namespace ModelSchema

open Outcome

variable {R : String → String → Prop}

/-! ## Alike declarations -/

/-- Decorators that differ in their position at most. -/
structure Decorator.Alike (d e : Decorator) : Prop where
  name : d.name = e.name
  arguments : d.arguments = e.arguments

/-- The same primitive base, or two models whose names correspond. -/
inductive BaseType.Alike (R : String → String → Prop) : BaseType → BaseType → Prop where
  | primitive (kind : FieldKind) : Alike R (.primitive kind) (.primitive kind)
  | model {a b : String} (names : R a b) : Alike R (.model a) (.model b)

/-- Fields that differ at most in their positions and in the names of the models that they hold,
which correspond. -/
structure Field.Alike (R : String → String → Prop) (f g : Field) : Prop where
  name : f.name = g.name
  isOptional : f.isOptional = g.isOptional
  isArray : f.type.isArray = g.type.isArray
  isNullable : f.type.isNullable = g.type.isNullable
  union : f.type.union = g.type.union
  base : f.type.base.Alike R g.type.base
  decorators : List.Forall₂ Decorator.Alike f.decorators g.decorators

/-- The errors of an expansion that differ at most in their position and in the names of models,
which correspond. -/
inductive CompileError.Alike (R : String → String → Prop) : CompileError → CompileError → Prop where
  | recursiveNesting {path path' : List String} (names : List.Forall₂ R path path')
      (p p' : Position) :
      Alike R (.recursiveNesting path p) (.recursiveNesting path' p')
  | illegalArguments (decorator : String) (rule : ArgumentRule) (arguments : List Literal)
      (p p' : Position) :
      Alike R (.illegalArguments decorator rule arguments p)
        (.illegalArguments decorator rule arguments p')
  | invertedBounds (field : String) (lo hi : UInt64) (p p' : Position) :
      Alike R (.invertedBounds field lo hi p) (.invertedBounds field lo hi p')

/-! ## Alike fields -/

namespace Decorator.Alike

variable {d e : Decorator}

/-- The same rule is broken by decorators that are alike. -/
lemma illegal (h : d.Alike e) (rule : ArgumentRule) :
    (d.illegal rule).Alike R (e.illegal rule) := by
  unfold Decorator.illegal
  rw [h.name, h.arguments]
  exact .illegalArguments ..

/-- Decorators that are alike give the same bound. -/
lemma bound (h : d.Alike e) : Agree (CompileError.Alike R) Eq d.bound e.bound := by
  unfold Decorator.bound
  rw [h.arguments]
  split
  · exact .ok rfl
  · exact .error (h.illegal _)

/-- Decorators that are alike give the same switch. -/
lemma switch (h : d.Alike e) : Agree (CompileError.Alike R) Eq d.switch e.switch := by
  unfold Decorator.switch
  rw [h.arguments]
  split
  · exact .ok rfl
  · exact .ok rfl
  · exact .error (h.illegal _)

/-- Decorators that are alike give the same default. -/
lemma value (h : d.Alike e) : Agree (CompileError.Alike R) Eq d.value e.value := by
  unfold Decorator.value
  rw [h.arguments]
  split
  · exact .ok rfl
  · exact .error (h.illegal _)

/-- Decorators that are alike give the same restriction. -/
lemma values (h : d.Alike e) : Agree (CompileError.Alike R) Eq d.values e.values := by
  unfold Decorator.values
  rw [h.arguments]
  split
  · exact .error (h.illegal _)
  · exact .ok rfl

/-- Alike decorators say the same. -/
lemma annotation (h : d.Alike e) : Agree (CompileError.Alike R) Eq d.annotation e.annotation := by
  unfold Decorator.annotation
  rw [h.name]
  split
  · exact h.bound.map fun _ _ hv => by rw [hv]
  · exact h.bound.map fun _ _ hv => by rw [hv]
  · exact h.values.map fun _ _ hv => by rw [hv]
  · exact h.switch.map fun _ _ hv => by rw [hv]
  · exact h.value.map fun _ _ hv => by rw [hv]
  · exact h.switch.map fun _ _ hv => by rw [hv]
  · exact .ok rfl

end Decorator.Alike

namespace Field.Alike

variable {f g : Field}

/-- Fields that are alike say the same about a description. -/
lemma annotate (h : f.Alike R g) (schema : FieldSchema) :
    Agree (CompileError.Alike R) Eq (f.annotate schema).outcome (g.annotate schema).outcome := by
  rw [annotate_outcome, annotate_outcome]
  refine Agree.foldlM h.decorators (fun s s' d e hs hd => hd.annotation.map fun a a' ha => ?_) rfl
  rw [hs, ha]

/-- Fields that are alike add the same to their base. -/
lemma describe (h : f.Alike R g) (base : FieldSchema) : f.describe base = g.describe base := by
  unfold Field.describe
  rw [h.isArray, h.isOptional, h.isNullable, h.union]

/-- Fields that are alike have the same bounds checked. -/
lemma checkBounds (h : f.Alike R g) (schema : FieldSchema) :
    Agree (CompileError.Alike R) Eq (f.checkBounds schema) (g.checkBounds schema) := by
  unfold Field.checkBounds
  rw [h.name]
  split
  · split
    · exact .error (.invertedBounds ..)
    · exact .ok rfl
  · exact .ok rfl

/-- Alike fields are settled alike. -/
lemma settle (h : f.Alike R g) (base : FieldSchema) :
    Agree (CompileError.Alike R) Eq (f.settle base) (g.settle base) := by
  unfold Field.settle
  rw [h.describe]
  refine (h.annotate _).bind fun s s' hs => ?_
  rw [hs]
  exact h.checkBounds s'

/-- Alike fields are expanded alike when their references are. -/
lemma expand (h : f.Alike R g) {reference reference' : String → Traced Schema}
    (model : ∀ a b, f.type.base = .model a → R a b →
      Agree (CompileError.Alike R) Eq (reference a).outcome (reference' b).outcome) :
    Agree (CompileError.Alike R) Eq (f.expand reference).outcome (g.expand reference').outcome := by
  have hbase : Agree (CompileError.Alike R) Eq (f.base fun name => (reference name).outcome)
      (g.base fun name => (reference' name).outcome) := by
    have hmodels := h.base
    unfold Field.base
    generalize f.type.base = base, g.type.base = base' at model hmodels
    cases hmodels with
    | primitive kind => exact .ok rfl
    | model names => exact (model _ _ rfl names).map fun _ _ hs => by rw [hs]
  rw [expand_outcome, expand_outcome]
  refine hbase.bind fun base base' hs => ?_
  rw [hs]
  exact h.settle base'

end Field.Alike

/-! ## Corresponding models -/

/-- Models of two catalogs correspond, which is said of their names: names correspond one to one,
they are names of declared models, and these have alike fields in the same order. What models refer
to has to correspond then; models that are not reached from corresponding ones need not. -/
structure Catalog.Correspondence (c₁ c₂ : Catalog) (R : String → String → Prop) : Prop where
  oneToOne : ∀ {a b a' b'}, R a b → R a' b' → (a = a' ↔ b = b')
  alike : ∀ {a b}, R a b → ∃ m₁ m₂, c₁.model? a = some m₁ ∧ c₂.model? b = some m₂ ∧
    List.Forall₂ (Field.Alike R) m₁.fields m₂.fields

namespace Catalog.Correspondence

variable {c₁ c₂ : Catalog} {path₁ path₂ : List String} {model₁ model₂ : Model} {a b : String}

/-- Corresponding names are on corresponding paths together. -/
lemma mem_iff (hc : c₁.Correspondence c₂ R) (hp : List.Forall₂ R path₁ path₂) (h : R a b) :
    a ∈ path₁ ↔ b ∈ path₂ := by
  induction hp with
  | nil => simp
  | cons first _ ih => rw [List.mem_cons, List.mem_cons, ih, hc.oneToOne h first]

/-- Corresponding paths correspond from corresponding names on. -/
lemma dropWhile (hc : c₁.Correspondence c₂ R) (hp : List.Forall₂ R path₁ path₂) (h : R a b) :
    List.Forall₂ R (path₁.dropWhile (· != a)) (path₂.dropWhile (· != b)) := by
  induction hp with
  | nil => exact .nil
  | @cons x y xs ys first rest ih =>
    have hsame : (x != a) = (y != b) := by
      rw [Bool.eq_iff_iff, bne_iff_ne, bne_iff_ne, ne_eq, ne_eq, hc.oneToOne first h]
    rw [List.dropWhile_cons, List.dropWhile_cons, hsame]
    split
    · exact ih
    · exact .cons first rest

/-- Corresponding models are expanded alike at the ends of corresponding paths.

**Proof sketch.** Induction over paths. References lead to corresponding models, which are on the
paths together or off them together; off them, both paths become longer by the model. -/
theorem agree_expandFrom (hc : c₁.Correspondence c₂ R) (h : c₁.IsPath path₁ model₁)
    (hp : List.Forall₂ R path₁ path₂)
    (hfields : List.Forall₂ (Field.Alike R) model₁.fields model₂.fields) :
    Agree (CompileError.Alike R) Eq (c₁.expandFrom path₁ model₁).outcome
      (c₂.expandFrom path₂ model₂).outcome := by
  induction h using IsPath.induction generalizing path₂ model₂ with
  | step path₁ model₁ h ih =>
    rw [expandFrom_outcome, expandFrom_outcome]
    have each : ∀ f g, f ∈ model₁.fields ∧ f.Alike R g → Agree (CompileError.Alike R) Eq
        ((f.name, ·) <$> (f.expand (c₁.reference path₁ f)).outcome)
        ((g.name, ·) <$> (g.expand (c₂.reference path₂ g)).outcome) := by
      rintro f g ⟨hf, hfg⟩
      rw [hfg.name]
      refine (hfg.expand fun a b hb hab => ?_).map fun s s' hs => by rw [hs]
      obtain ⟨next₁, next₂, hnext₁, hnext₂, hnext⟩ := hc.alike hab
      have hsnoc {ps qs : List String} (h : List.Forall₂ R ps qs) :
        List.Forall₂ R (ps ++ [a]) (qs ++ [b]) :=
        List.rel_append h (.cons hab .nil)
      by_cases ha : a ∈ path₁
      · unfold reference
        rw [if_pos ha, if_pos ((hc.mem_iff hp hab).1 ha)]
        exact .error (.recursiveNesting (hsnoc (hc.dropWhile hp hab)) ..)
      · rw [reference_of_not_mem ha hnext₁, reference_of_not_mem (mt (hc.mem_iff hp hab).2 ha)
          hnext₂]
        exact ih f hf a next₁ hb ha hnext₁ (h.snoc hf hb ha hnext₁) (hsnoc hp) hnext
    refine (Agree.mapM (forall₂_mem hfields) each).imp (fun _ _ he => he) fun schema schema' hs =>
      ?_
    rwa [List.forall₂_eq_eq_eq] at hs

/-- Corresponding roots are resolved alike. -/
lemma agree_resolve (hc : c₁.Correspondence c₂ R) (h₁ : model₁ ∈ c₁.models)
    (h₂ : model₂ ∈ c₂.models) (h : R model₁.name model₂.name) :
    Agree (CompileError.Alike R) Eq (c₁.resolve model₁).outcome (c₂.resolve model₂).outcome := by
  obtain ⟨m₁, m₂, hm₁, hm₂, hfields⟩ := hc.alike h
  rw [model?_eq_some.2 ⟨h₁, rfl⟩] at hm₁
  rw [model?_eq_some.2 ⟨h₂, rfl⟩] at hm₂
  cases hm₁
  cases hm₂
  rw [resolve_eq, resolve_eq]
  exact hc.agree_expandFrom (IsPath.single h₁) (.cons h .nil) hfields

end Catalog.Correspondence

/-! ## Renamed models -/

/-- A base type with other names of models. -/
def BaseType.rename (rename : String → String) : BaseType → BaseType
  | .primitive kind => .primitive kind
  | .model name => .model (rename name)

/-- A field with other names of models. -/
def Field.rename (rename : String → String) (field : Field) : Field :=
  { field with type := { field.type with base := field.type.base.rename rename } }

/-- A model with other names of models. -/
def Model.rename (rename : String → String) (model : Model) : Model :=
  { model with name := rename model.name, fields := model.fields.map (Field.rename rename) }

/-- Names that are kept leave a field as it is. -/
lemma Field.rename_id (field : Field) : field.rename id = field := by
  obtain ⟨name, position, type, decorators, isOptional⟩ := field
  obtain ⟨base, isArray, isNullable, union⟩ := type
  cases base <;> rfl

/-- Names that are kept leave a model as it is. -/
lemma Model.rename_id (model : Model) : model.rename id = model := by
  unfold Model.rename
  rw [funext Field.rename_id]
  simp

/-- A field is alike the same field elsewhere, with other names of models. -/
lemma Field.alike_of_unplaced_eq {rename : String → String} {f g : Field}
    (h : (f.rename rename).unplaced = g.unplaced)
    (names : ∀ name, f.type.base = .model name → R name (rename name)) : f.Alike R g := by
  obtain ⟨hname, -, htype, hdecorators, hoptional⟩ := Field.mk.inj h
  have harray : f.type.isArray = g.type.isArray := by rw [← htype]; rfl
  have hnullable : f.type.isNullable = g.type.isNullable := by rw [← htype]; rfl
  have hunion : f.type.union = g.type.union := by rw [← htype]; rfl
  refine ⟨hname, hoptional, harray, hnullable, hunion, ?_, ?_⟩
  · rw [← htype]
    change f.type.base.Alike R (f.type.base.rename rename)
    cases hb : f.type.base with
    | primitive kind => exact .primitive kind
    | model name => exact .model (names name hb)
  · refine (map_eq_map_iff_forall₂.1 hdecorators).imp fun d e hd => ?_
    obtain ⟨hname, harguments, -⟩ := Decorator.mk.inj hd
    exact ⟨hname, harguments⟩

namespace Catalog

variable {c₁ c₂ : Catalog} {rename : String → String} {root : String}

/-- Models that are declared elsewhere under other names correspond to their copies, which is said
here of the models that are reached from a root. -/
lemma Correspondence.of_copies (declared : root ∈ c₁.models.map Model.name)
    (distinct : ∀ a b, Model.Reaches c₁.models root a → Model.Reaches c₁.models root b →
      rename a = rename b → a = b)
    (copied : ∀ model ∈ c₁.models, Model.Reaches c₁.models root model.name →
      ∃ copy ∈ c₂.models, (model.rename rename).unplaced = copy.unplaced) :
    c₁.Correspondence c₂ fun a b => Model.Reaches c₁.models root a ∧ b = rename a where
  oneToOne := by
    rintro a _ a' _ ⟨ha, rfl⟩ ⟨ha', rfl⟩
    exact ⟨congrArg rename, distinct a a' ha ha'⟩
  alike := by
    rintro a _ ⟨ha, rfl⟩
    have hdeclared : a ∈ c₁.models.map Model.name := by
      cases ha with
      | refl => exact declared
      | tail _ hstep =>
        obtain ⟨model, hmodel, -, field, hfield, hbase⟩ := hstep
        exact c₁.wellDeclared.declared model hmodel field hfield a hbase
    obtain ⟨model, hmodel, rfl⟩ := List.mem_map.1 hdeclared
    obtain ⟨copy, hcopy, heq⟩ := copied model hmodel ha
    have hfields : model.fields.map (fun f => (f.rename rename).unplaced) =
        copy.fields.map Field.unplaced := by
      have := congrArg Model.fields heq
      rwa [Model.unplaced, Model.relocate, Model.rename, List.map_map] at this
    refine ⟨model, copy, model?_eq_some.2 ⟨hmodel, rfl⟩,
      model?_eq_some.2 ⟨hcopy, (congrArg Model.name heq).symm⟩, ?_⟩
    refine (forall₂_mem (map_eq_map_iff_forall₂.1 hfields)).imp fun f g hfg => ?_
    refine Field.alike_of_unplaced_eq hfg.2 fun name hb => ⟨?_, rfl⟩
    exact ha.tail ⟨model, hmodel, rfl, f, hfg.1, hb⟩

/-- **A schema depends on the shape of what its root reaches.** Models that correspond to each other
one to one, with the same fields in the same order as far as names of models and positions do not
matter, have the same schema, or they fail with the same error as far as these do not matter. In
particular the schema of a root that is picked by its name stays the same when its models are
renamed apart and declared elsewhere in any order, among any other models.

**Proof sketch.** The correspondence is kept on the way along both paths of models in expansion, so
a reference closes a cycle in both expansions or in none. -/
theorem resolve_depends_on_shape (c₁ c₂ : Catalog) :
    (∀ R root₁ root₂, c₁.Correspondence c₂ R → root₁ ∈ c₁.models → root₂ ∈ c₂.models →
      R root₁.name root₂.name →
        Agree (CompileError.Alike R) Eq (c₁.resolve root₁).outcome (c₂.resolve root₂).outcome) ∧
    ∀ (rename : String → String) root root₁ root₂, c₁.root (.named root) = .ok root₁ →
      c₂.root (.named (rename root)) = .ok root₂ →
      (∀ a b, Model.Reaches c₁.models root a → Model.Reaches c₁.models root b →
        rename a = rename b → a = b) →
      (∀ model ∈ c₁.models, Model.Reaches c₁.models root model.name →
        ∃ copy ∈ c₂.models, (model.rename rename).unplaced = copy.unplaced) →
      ∀ schema,
        (c₁.resolve root₁).outcome = .ok schema ↔ (c₂.resolve root₂).outcome = .ok schema := by
  refine ⟨fun R root₁ root₂ hc h₁ h₂ h => hc.agree_resolve h₁ h₂ h, ?_⟩
  intro rename root root₁ root₂ hroot₁ hroot₂ distinct copied schema
  obtain ⟨h₁, hname₁⟩ := root_eq_ok.1 hroot₁
  obtain ⟨h₂, hname₂⟩ := root_eq_ok.1 hroot₂
  have hc := Correspondence.of_copies (List.mem_map.2 ⟨root₁, h₁, hname₁⟩) distinct copied
  refine (hc.agree_resolve h₁ h₂ ⟨?_, ?_⟩).ok_iff
  · rw [hname₁]
  · rw [hname₁, hname₂]

/-! ### Lines and points under other names -/

namespace Drawing

/-- Lines and points under other names and at other places, in the other order and with a further
model between them that refers to lines. -/
def copies : Catalog :=
  ⟨[(line.rename ("New" ++ ·)).unplaced,
      ⟨"Path", ⟨5, 7⟩,
      [⟨"lines", ⟨5, 14⟩, { base := .model "NewLine", isArray := true }, [], false⟩]⟩,
      (point.rename ("New" ++ ·)).unplaced], by decide⟩

end Drawing

/-- A line has the same members under its other name. -/
theorem resolve_depends_on_shape_line :
    (Drawing.declarations.resolve Drawing.line).outcome = .ok Drawing.lineSchema ∧
    (Drawing.copies.resolve (Drawing.line.rename ("New" ++ ·)).unplaced).outcome =
      .ok Drawing.lineSchema := by
  have hresolve : (Drawing.declarations.resolve Drawing.line).outcome = .ok Drawing.lineSchema := by
    decide +kernel
  obtain ⟨-, renamed⟩ := resolve_depends_on_shape Drawing.declarations Drawing.copies
  refine ⟨hresolve, (renamed ("New" ++ ·) "Line" _ _ rfl rfl ?_ ?_ _).1 hresolve⟩
  · intro a b _ _ h
    exact (String.append_right_inj "New").1 h
  · intro model hmodel _
    rcases List.mem_pair.1 hmodel with rfl | rfl
    · exact ⟨_, .tail _ (.tail _ (.head _)), rfl⟩
    · exact ⟨_, .head _, rfl⟩

end Catalog

end ModelSchema
