import ModelSchema.Proofs.Agreement
import ModelSchema.Proofs.Expansion

set_option autoImplicit false

/-!
# Other decorators on the same fields

Of the decorators of one name only the last one counts, and the order of decorators with different
names does not matter. Decorators without a meaning do not matter at all, and none of them has an
influence on what a field is made of.

## Main definitions

* `Decorator.isKnown` — a decorator has one of the names with a meaning.
* `Decorator.Rearranged` — decorators without some that are overridden, in an order that keeps that
  of each name.
* `Catalog.redecorate` — the same models with other decorators.

## Main results

* `Field.annotate_filter_isKnown` — decorators without a meaning can be left out.
* `Field.eq_of_annotate` — the last decorators of the names with a meaning decide.
* `Catalog.keeps_expandFrom_redecorate` — models are expanded like those with other decorators when
  their fields are settled alike.
* `Catalog.last_decorators_decide` — what decorators make of a field, and of a document.
-/

namespace ModelSchema

open Outcome

/-! ## Names with a meaning -/

namespace Decorator

/-- The names of decorators with a meaning. -/
def keywords : List String :=
  ["min", "max", "enum", "show", "value", "required"]

/-- Whether a decorator has a name with a meaning. -/
def isKnown (decorator : Decorator) : Bool :=
  decorator.name ∈ keywords

variable {decorator : Decorator}

/-- A decorator of another name says nothing. -/
lemma annotation_of_not_isKnown (h : decorator.isKnown = false) :
    decorator.annotation = .ok none := by
  unfold annotation
  split
  case h_7 => rfl
  all_goals
    next hname =>
      rw [isKnown, hname] at h
      exact absurd h (by decide)

/-- A decorator with a meaning says something, if its arguments are admitted. -/
lemma annotation_ne_none (h : decorator.isKnown = true) : decorator.annotation ≠ .ok none := by
  intro hnone
  unfold annotation at hnone
  split at hnone
  case h_7 => simp_all [isKnown, keywords]
  all_goals
    obtain ⟨_, -, h⟩ := map_eq_ok.1 hnone
    cases h

/-- The last decorator of a name among decorators. -/
def last? (decorators : List Decorator) (name : String) : Option Decorator :=
  (decorators.filter fun d => d.name == name).getLast?

/-- Decorators are changed by leaving out ones with a meaning that are followed by another one of
the same name, and by changing the order without changing that of decorators of one name. -/
inductive Rearranged : List Decorator → List Decorator → Prop where
  | overridden {before after : List Decorator} {decorator later : Decorator}
      (known : decorator.isKnown = true)
      (mem : later ∈ after) (same : later.name = decorator.name) :
      Rearranged (before ++ decorator :: after) (before ++ after)
  | reordered {ds es : List Decorator} (perm : ds.Perm es)
      (order : ∀ name, (ds.filter fun d => d.name == name) = es.filter fun d => d.name == name) :
      Rearranged ds es
  | trans {ds es fs : List Decorator} (first : Rearranged ds es) (second : Rearranged es fs) :
      Rearranged ds fs

namespace Rearranged

variable {ds es : List Decorator}

/-- No decorator is added. -/
lemma subset (h : Rearranged ds es) : es ⊆ ds := by
  induction h with
  | overridden => exact List.append_subset.2 ⟨by simp, fun d hd => by simp [hd]⟩
  | reordered perm => exact perm.symm.subset
  | trans _ _ first second => exact List.Subset.trans second first

/-- The last decorator of each name stays the same. -/
lemma last?_eq (h : Rearranged ds es) (name : String) : last? ds name = last? es name := by
  induction h with
  | @overridden before after decorator later known mem same =>
    unfold last?
    rw [List.filter_append, List.filter_append, List.filter_cons]
    split
    · next hname =>
      have hlater : later ∈ after.filter fun d => d.name == name := by
        rw [List.mem_filter, same]
        exact ⟨mem, hname⟩
      obtain ⟨first, others, heq⟩ := List.exists_cons_of_ne_nil (List.ne_nil_of_mem hlater)
      rw [heq]
      simp
    · rfl
  | reordered perm order => rw [last?, last?, order]
  | trans _ _ first second => exact first.trans second

end Rearranged

end Decorator

/-! ## Fields -/

namespace Field

variable {field : Field} {schema result : FieldSchema}

/-- Decorators without a meaning can be left out. -/
lemma annotate_filter_isKnown (field : Field) (ds : List Decorator) (schema : FieldSchema) :
    (annotate { field with decorators := ds.filter Decorator.isKnown } schema).outcome =
      (annotate { field with decorators := ds } schema).outcome := by
  rw [annotate_outcome, annotate_outcome]
  dsimp only
  induction ds generalizing schema with
  | nil => rfl
  | cons d ds ih =>
    rw [List.filter_cons]
    split
    · rw [List.foldlM_cons, List.foldlM_cons]
      congr 1
      funext s
      exact ih s
    · next h =>
      rw [List.foldlM_cons, Decorator.annotation_of_not_isKnown (Bool.eq_false_iff.2 h)]
      exact ih schema

/-- The last decorator of a name with a meaning decides an attribute that decorators of no other
name touch. -/
lemma attribute_of_annotate {β : Type} (π : FieldSchema → β) {name : String}
    (hname : name ∈ Decorator.keywords)
    (own : ∀ (s s' : FieldSchema) (a : Annotation), a.keyword = name →
        π (a.apply s) = π (a.apply s'))
    (other : ∀ (s : FieldSchema) (a : Annotation), a.keyword ≠ name → π (a.apply s) = π s)
    (h : (field.annotate schema).outcome = .ok result) :
    π result =
      ((field.last? name).map fun d =>
          (d.annotation.map fun a => π (schema.annotated a)).toOption.getD (π schema)).getD
        (π schema) := by
  refine project_annotate π name _ ?_ ?_ h
  · intro s d a hd ha
    rw [ha]
    cases a with
    | none =>
      exact absurd ha (Decorator.annotation_ne_none (by simpa [Decorator.isKnown, hd] using hname))
    | some a => exact own s schema a (by rw [← Decorator.name_eq_keyword ha, hd])
  · rintro s d (_ | a) hd ha
    · rfl
    · exact other s a (by rwa [← Decorator.name_eq_keyword ha])

variable {ds es : List Decorator} {result' : FieldSchema}

/-- Decorators with the same last one of a name with a meaning decide an attribute alike. -/
lemma attribute_eq_of_annotate {β : Type} (π : FieldSchema → β) {name : String}
    (hname : name ∈ Decorator.keywords)
    (own : ∀ (s s' : FieldSchema) (a : Annotation), a.keyword = name →
        π (a.apply s) = π (a.apply s'))
    (other : ∀ (s : FieldSchema) (a : Annotation), a.keyword ≠ name → π (a.apply s) = π s)
    (hlast : Decorator.last? ds name = Decorator.last? es name)
    (h : (annotate { field with decorators := ds } schema).outcome = .ok result)
    (h' : (annotate { field with decorators := es } schema).outcome = .ok result') :
    π result = π result' := by
  have hsame : last? { field with decorators := ds } name =
      last? { field with decorators := es } name := hlast
  rw [attribute_of_annotate π hname own other h, attribute_of_annotate π hname own other h', hsame]

open Annotation (keyword) in
/-- Decorators that can be gone over make the same of a description when the last ones of each name
with a meaning are the same. -/
lemma eq_of_annotate
    (hlast : ∀ name ∈ Decorator.keywords, Decorator.last? ds name = Decorator.last? es name)
    (h : (annotate { field with decorators := ds } schema).outcome = .ok result)
    (h' : (annotate { field with decorators := es } schema).outcome = .ok result') :
    result = result' := by
  have decided {β : Type} (π : FieldSchema → β) (name : String) (hname : name ∈ Decorator.keywords)
      (own : ∀ (s s' : FieldSchema) (a : Annotation), a.keyword = name →
        π (a.apply s) = π (a.apply s'))
      (other : ∀ (s : FieldSchema) (a : Annotation), a.keyword ≠ name → π (a.apply s) = π s) :
      π result = π result' :=
    attribute_eq_of_annotate π hname own other (hlast name hname) h h'
  have kept {β : Type} (π : FieldSchema → β)
      (single : ∀ (s : FieldSchema) (a : Annotation), π (a.apply s) = π s) :
      π result = π result' :=
    (annotate_preserves π single h).trans (annotate_preserves π single h').symm
  have hdecided : result.min = result'.min ∧ result.max = result'.max ∧
      result.choices = result'.choices ∧ result.hidden = result'.hidden ∧
      result.initial = result'.initial ∧ result.marked = result'.marked := by
    refine ⟨decided (·.min) "min" ?_ ?_ ?_, decided (·.max) "max" ?_ ?_ ?_,
      decided (·.choices) "enum" ?_ ?_ ?_, decided (·.hidden) "show" ?_ ?_ ?_,
      decided (·.initial) "value" ?_ ?_ ?_, decided (·.marked) "required" ?_ ?_ ?_⟩
    any_goals decide
    -- what is said is written to the attribute of its keyword and to no other one
    all_goals
      intros
      rename_i a ha
      cases a <;> first | rfl | simp [keyword] at ha
  have hkept : result.kind = result'.kind ∧ result.required = result'.required ∧
      result.item = result'.item ∧
      result.fields = result'.fields ∧ result.nullable = result'.nullable := by
    refine ⟨kept (·.kind) ?_, kept (·.required) ?_, kept (·.item) ?_, kept (·.fields) ?_,
      kept (·.nullable) ?_⟩ <;>
      · rintro s (_ | _) <;> rfl
  cases result
  cases result'
  simp_all

variable {base : FieldSchema}

/-- What a field is settled to, and why it is not, is a matter of the decorators with a meaning. -/
lemma settle_filter_isKnown (field : Field) (ds : List Decorator) (base : FieldSchema) :
    settle { field with decorators := ds.filter Decorator.isKnown } base =
      settle { field with decorators := ds } base :=
  congrArg (· >>= field.checkBounds) (annotate_filter_isKnown field ds (field.describe base))

/-- Decorators can be rearranged on a field that is settled.

**Proof sketch.** None is added, so the ones that are left are legal; they make the same of the
field, because the last ones of each name are the same; and the bounds are checked after all of
them. -/
lemma settle_of_rearranged (hrearranged : Decorator.Rearranged ds es)
    (h : settle { field with decorators := ds } base = .ok result) :
    settle { field with decorators := es } base = .ok result := by
  obtain ⟨schema, hs, hbounds⟩ := Outcome.bind_eq_ok.1 h
  have hlegal : ∀ d ∈ ds, d.IsLegal := exists_annotate_iff.1 ⟨schema, hs⟩
  obtain ⟨schema', hs'⟩ :=
    (@exists_annotate_iff { field with decorators := es } (field.describe base)).2
    fun d hd => hlegal d (hrearranged.subset hd)
  obtain rfl : schema = schema' := eq_of_annotate (fun name _ => hrearranged.last?_eq name) hs hs'
  exact Outcome.bind_eq_ok.2 ⟨schema, hs', hbounds⟩

/-- Without decorators, a field is what its declaration says. -/
lemma settle_nil (hmin : base.min = none) (hmax : base.max = none) :
    settle { field with decorators := [] } base = .ok (field.describe base) := by
  have hsound : IsSound { field with decorators := [] } := ⟨by simp, by simp [last?]⟩
  obtain ⟨result, h⟩ := (exists_settle_iff hmin hmax).2 hsound
  obtain ⟨schema, ⟨⟩, hbounds⟩ := Outcome.bind_eq_ok.1 h
  rw [h, (checkBounds_eq_ok.1 hbounds).1]
  rfl

variable (field ds) in
/-- Decorators without a meaning can be left out when a field is expanded. -/
lemma expand_filter_isKnown (reference : String → Traced Schema) :
    (expand { field with decorators := ds.filter Decorator.isKnown } reference).outcome =
      (expand { field with decorators := ds } reference).outcome := by
  rw [expand_outcome, expand_outcome]
  exact congrArg (_ >>= ·) (funext (settle_filter_isKnown field ds))

variable {reference : String → Traced Schema}

/-- Decorators can be rearranged on a field that is expanded. -/
lemma expand_of_rearranged (hrearranged : Decorator.Rearranged ds es)
    (h : (expand { field with decorators := ds } reference).outcome = .ok result) :
    (expand { field with decorators := es } reference).outcome = .ok result := by
  rw [expand_outcome] at h ⊢
  obtain ⟨base, hbase, h⟩ := Outcome.bind_eq_ok.1 h
  exact Outcome.bind_eq_ok.2 ⟨base, hbase, settle_of_rearranged hrearranged h⟩

/-- A field that is expanded is made of the same as without its decorators. -/
lemma exists_expand_nil
    (h : (expand { field with decorators := ds } reference).outcome = .ok result) :
    ∃ plain, (expand { field with decorators := [] } reference).outcome = .ok plain ∧
      result.kind = plain.kind ∧ result.required = plain.required ∧
        result.nullable = plain.nullable ∧ result.item = plain.item ∧
        result.fields = plain.fields := by
  rw [expand_outcome] at h ⊢
  obtain ⟨base, hbase, h⟩ := Outcome.bind_eq_ok.1 h
  obtain ⟨hmin, hmax⟩ := bounds_of_base hbase
  have hshape := settle_shape h
  exact ⟨field.describe base, Outcome.bind_eq_ok.2 ⟨base, hbase, settle_nil hmin hmax⟩, hshape⟩

end Field

/-! ## Models -/

/-- A model with other decorators on its fields. -/
def Model.redecorate (change : Model → Field → List Decorator) (model : Model) : Model :=
  { model with fields := model.fields.map fun field =>
    { field with decorators := change model field } }

namespace Catalog

/-- The models of a catalog with other decorators. What is checked before any model is expanded does
not depend on them. -/
def redecorate (catalog : Catalog) (change : Model → Field → List Decorator) : Catalog where
  models := catalog.models.map (Model.redecorate change)
  checked := by
    obtain ⟨notReserved, names, fieldNames, declared⟩ := catalog.wellDeclared
    have hnames : (catalog.models.map (Model.redecorate change)).map Model.name =
        catalog.models.map Model.name := by
      rw [List.map_map]
      rfl
    refine Model.checkAll_eq_ok.2 ⟨?_, ?_, ?_, ?_⟩
    · exact List.forall_mem_map.2 notReserved
    · rw [hnames]
      exact names
    · refine List.forall_mem_map.2 fun model hm => ?_
      have hfields : (model.redecorate change).fields.map Field.name =
          model.fields.map Field.name := by
        rw [Model.redecorate, List.map_map]
        rfl
      rw [hfields]
      exact fieldNames model hm
    · rw [hnames]
      exact List.forall_mem_map.2 fun model hm => List.forall_mem_map.2 (declared model hm)

variable {catalog : Catalog} {change : Model → Field → List Decorator}

/-- A model is found under the name that it had. -/
lemma model?_redecorate {name : String} {model : Model} (h : catalog.model? name = some model) :
    (catalog.redecorate change).model? name = some (model.redecorate change) := by
  obtain ⟨hm, rfl⟩ := model?_eq_some.1 h
  exact model?_eq_some.2 ⟨List.mem_map_of_mem hm, rfl⟩

/-- Models are expanded like those with other decorators when their fields are settled alike.

**Proof sketch.** Induction over the paths. The decorators of a field have no influence on what it
refers to, and a model that it refers to is expanded alike at the end of the longer path. -/
theorem keeps_expandFrom_redecorate {errors : Prop}
    (alike : ∀ model ∈ catalog.models, ∀ field ∈ model.fields, ∀ base,
      Keeps errors (field.settle base)
        (Field.settle { field with decorators := change model field } base))
    {path : List String} {model : Model} (h : catalog.IsPath path model) :
    Keeps errors (catalog.expandFrom path model).outcome
      ((catalog.redecorate change).expandFrom path (model.redecorate change)).outcome := by
  induction h using IsPath.induction with
  | step path model h ih =>
    rw [expandFrom_outcome, expandFrom_outcome]
    refine Keeps.mapM fun field hf => Keeps.map _ ?_
    rw [Field.expand_outcome, Field.expand_outcome]
    refine Keeps.bind ?_ (alike model h.mem field hf)
    unfold Field.base
    cases hb : field.type.base with
    | primitive kind => exact .of_eq rfl
    | model name =>
      refine Keeps.map _ ?_
      dsimp only
      by_cases hn : name ∈ path
      · unfold reference
        rw [if_pos hn, if_pos hn]
        exact .of_eq rfl
      · obtain ⟨next, hnext⟩ := exists_model?_of_base h.mem hf hb
        rw [reference_of_not_mem hn hnext, reference_of_not_mem hn (model?_redecorate hnext)]
        exact ih field hf name next hb hn hnext (h.snoc hf hb hn hnext)

/-- Models have the schemas of those with other decorators when their fields are settled alike. -/
lemma keeps_resolve_redecorate {errors : Prop}
    (alike : ∀ model ∈ catalog.models, ∀ field ∈ model.fields, ∀ base,
      Keeps errors (field.settle base)
        (Field.settle { field with decorators := change model field } base))
    {model : Model} (hm : model ∈ catalog.models) :
    Keeps errors (catalog.resolve model).outcome
      ((catalog.redecorate change).resolve (model.redecorate change)).outcome := by
  rw [resolve_eq, resolve_eq]
  exact keeps_expandFrom_redecorate alike (.single hm)

/-- Of the decorators of a field, only the last one of each name with a meaning counts. Without the
decorators that have no meaning, a field has the same description or the same error. A field that
has a description keeps it when decorators that are overridden are left out, and when the order is
changed between names; and it is made of what it is made of without decorators.

The same can be done at once to all fields of a document. -/
theorem last_decorators_decide (catalog : Catalog) :
    (∀ (field : Field) (ds : List Decorator) (reference : String → Traced Schema),
      (Field.expand { field with decorators := ds.filter Decorator.isKnown } reference).outcome =
          (Field.expand { field with decorators := ds } reference).outcome ∧
        ∀ schema, (Field.expand { field with decorators := ds } reference).outcome = .ok schema →
          (∀ es, Decorator.Rearranged ds es →
            (Field.expand { field with decorators := es } reference).outcome = .ok schema) ∧
          ∃ plain, (Field.expand { field with decorators := [] } reference).outcome = .ok plain ∧
            schema.kind = plain.kind ∧ schema.required = plain.required ∧
              schema.nullable = plain.nullable ∧ schema.item = plain.item ∧
              schema.fields = plain.fields) ∧
    ∀ change : Model → Field → List Decorator,
      ((∀ model ∈ catalog.models, ∀ field ∈ model.fields,
          (change model field).filter Decorator.isKnown =
            field.decorators.filter Decorator.isKnown) →
        ∀ model ∈ catalog.models,
          ((catalog.redecorate change).resolve (model.redecorate change)).outcome =
          (catalog.resolve model).outcome) ∧
      ((∀ model ∈ catalog.models, ∀ field ∈ model.fields,
          Decorator.Rearranged field.decorators (change model field)) →
        ∀ model ∈ catalog.models, ∀ schema, (catalog.resolve model).outcome = .ok schema →
          ((catalog.redecorate change).resolve (model.redecorate change)).outcome =
            .ok schema) := by
  refine ⟨fun field ds reference => ⟨Field.expand_filter_isKnown field ds reference, fun schema h =>
    ⟨fun es hrearranged => Field.expand_of_rearranged hrearranged h, Field.exists_expand_nil h⟩⟩,
    fun change => ⟨fun hknown model hm => ?_, fun hrearranged model hm schema h => ?_⟩⟩
  · have alike : ∀ model ∈ catalog.models, ∀ field ∈ model.fields, ∀ base,
        Keeps True (field.settle base)
          (Field.settle { field with decorators := change model field } base) := by
      intro model hm field hf base
      refine .of_eq ?_
      rw [← Field.settle_filter_isKnown field (change model field), hknown model hm field hf,
        Field.settle_filter_isKnown]
    exact ((keeps_resolve_redecorate alike hm).eq trivial).symm
  · have alike : ∀ model ∈ catalog.models, ∀ field ∈ model.fields, ∀ base,
        Keeps False (field.settle base)
          (Field.settle { field with decorators := change model field } base) :=
      fun model hm field hf base =>
        { value := fun result h => Field.settle_of_rearranged (hrearranged model hm field hf) h
          error := False.elim }
    exact (keeps_resolve_redecorate alike hm).value schema h

/-! ### Decorators that are overridden -/

namespace Rating

/-- The lower bound that counts. -/
def atLeast : Decorator :=
  ⟨"min", [.number 3], ⟨1, 46⟩⟩

/-- The upper bound. -/
def atMost : Decorator :=
  ⟨"max", [.number 9], ⟨1, 38⟩⟩

/-- A decorator without a meaning. -/
def hint : Decorator :=
  ⟨"hint", [], ⟨1, 32⟩⟩

/-- A lower bound that is overridden. -/
def overridden : Decorator :=
  ⟨"min", [.number 12], ⟨1, 23⟩⟩

/-- A field with all of them, where the lower bound that is overridden is above the upper one. -/
def score : Field :=
  ⟨"score", ⟨1, 8⟩, { base := .primitive .number }, [overridden, hint, atMost, atLeast], false⟩

/-- The catalog of a model with this field. -/
def declarations : Catalog :=
  ⟨[⟨"Rating", ⟨1, 7⟩, [score]⟩], by decide⟩

/-- The decorators that count, in another order. -/
lemma rearranged : Decorator.Rearranged score.decorators [atLeast, hint, atMost] := by
  have hleft : Decorator.Rearranged score.decorators [hint, atMost, atLeast] :=
    @Decorator.Rearranged.overridden [] [hint, atMost, atLeast] overridden atLeast (by decide)
      (by decide) rfl
  refine hleft.trans (.reordered (@List.perm_append_comm _ [hint, atMost] [atLeast]) fun name => ?_)
  by_cases hname : name = "min"
  · rw [hname]
    rfl
  · simp [List.filter_cons, hint, atMost, atLeast, Ne.symm hname]

end Rating

/-- The lower bound that is overridden does not have to be in order with the upper one, and the
order of the bounds that count does not matter. -/
theorem last_decorators_decide_score :
    (Field.expand Rating.score fun _ => Traced.done []).outcome = .ok
        { kind := .number, required := true, min := some 3, max := some 9 } ∧
      (Field.expand { Rating.score with decorators := [Rating.atLeast, Rating.hint, Rating.atMost] }
        fun _ => Traced.done []).outcome = .ok
        { kind := .number, required := true, min := some 3, max := some 9 } ∧
      (∀ model ∈ Rating.declarations.models, ∀ field ∈ model.fields,
        Decorator.Rearranged field.decorators [Rating.atLeast, Rating.hint, Rating.atMost]) ∧
      ∀ model ∈ Rating.declarations.models, ∀ schema,
        (Rating.declarations.resolve model).outcome = .ok schema →
        ((Rating.declarations.redecorate fun _ _ =>
          [Rating.atLeast, Rating.hint, Rating.atMost]).resolve
          (model.redecorate fun _ _ => [Rating.atLeast, Rating.hint, Rating.atMost])).outcome =
            .ok schema := by
  obtain ⟨hfield, hcatalog⟩ := last_decorators_decide Rating.declarations
  have hscore : (Field.expand Rating.score fun _ => Traced.done []).outcome = .ok
      { kind := .number, required := true, min := some 3, max := some 9 } := by decide +kernel
  have hall : ∀ model ∈ Rating.declarations.models, ∀ field ∈ model.fields,
      Decorator.Rearranged field.decorators [Rating.atLeast, Rating.hint, Rating.atMost] := by
    rintro _ (_ | ⟨_, ⟨⟩⟩) _ (_ | ⟨_, ⟨⟩⟩)
    exact Rating.rearranged
  have hrearranged :=
    ((hfield Rating.score Rating.score.decorators fun _ => Traced.done []).2 _ hscore).1 _
    Rating.rearranged
  exact ⟨hscore, hrearranged, hall, (hcatalog _).2 hall⟩

end Catalog

end ModelSchema
