import ModelSchema.Proofs.Validity

set_option autoImplicit false

/-!
# Expansion as substitution

Where expansion succeeds, the path of models in expansion leaves no mark on its result: what stands
in the place of a reference is the schema of the model that is referred to, as it is on its own.

## Main definitions

* `Field.substituted?` — the members that stand in the place of the reference of a field.
* `Catalog.Route` — fields each of which is declared where the one before it leads.
* `Schema.along?` — the members at the end of a route through a schema.

## Main results

* `Catalog.expandFrom_eq_ok_iff_resolve` — the path has no influence on success or its result.
* `Catalog.resolve_is_substitution` — at the end of every route stands the schema of a model.
-/

namespace ModelSchema

/-- The members that stand in the place of the reference of a field: its own, or for an array those
of its elements. -/
def Field.substituted? (field : Field) (schema : FieldSchema) : Option Schema :=
  if field.type.isArray then schema.item.bind (·.fields) else schema.fields

/-- The members at the end of a route through a schema. -/
def Schema.along? (schema : Schema) : List Field → Option Schema
  | [] => some schema
  | field :: route => do
    let entry ← Entries.get? schema field.name
    let members ← field.substituted? entry
    Schema.along? members route

namespace Catalog

variable {catalog : Catalog} {path : List String} {model : Model}

/-- A route from a model to a model: fields each of which is declared in the model where the one
before it leads, and holds the model where it leads itself. -/
inductive Route (catalog : Catalog) : Model → List Field → Model → Prop where
  | nil (model : Model) : Route catalog model [] model
  | cons {model next target : Model} {field : Field} {route : List Field} {name : String}
      (declared : field ∈ model.fields) (base : field.type.base = .model name)
      (found : catalog.model? name = some next) (rest : Route catalog next route target) :
      Route catalog model (field :: route) target

/-! ## Independence of the path -/

/-- An expansion that succeeds does so with the same result when fewer models are in expansion.

**Proof sketch.** Induction over paths. A reference to a model off the longer path is one to a model
off the shorter path, and both paths become longer by that model. -/
lemma expandFrom_of_subset (h : catalog.IsPath path model) {path' : List String}
    (hsub : path' ⊆ path) {schema : Schema}
    (hs : (catalog.expandFrom path model).outcome = .ok schema) :
    (catalog.expandFrom path' model).outcome = .ok schema := by
  induction h using IsPath.induction generalizing path' schema with
  | step path model h ih =>
    rw [expandFrom_eq_ok] at hs ⊢
    refine (Outcome.forall₂_mem hs).imp ?_
    rintro field entry ⟨hf, hname, hmember⟩
    refine ⟨hname, ?_⟩
    cases hb : field.type.base with
    | primitive kind =>
      rw [member_of_primitive hb] at hmember ⊢
      exact hmember
    | model name =>
      obtain ⟨next, members, hn, hnext, hmembers, hsettle⟩ := exists_of_member h hf hb hmember
      have hsub' : path' ++ [name] ⊆ path ++ [name] :=
        List.append_subset.2 ⟨fun x hx => List.mem_append_left _ (hsub hx),
          List.subset_append_right _ _⟩
      have hmembers' := ih field hf name next hb hn hnext (h.snoc hf hb hn hnext) hsub' hmembers
      rw [member_of_model hb (fun hn' => hn (hsub hn')) hnext hmembers']
      exact hsettle

/-- The path of models in expansion influences neither whether an expansion succeeds nor its result.

**Proof sketch.** One direction drops models from the path. For the other, a model that has a schema
on its own reaches no cycle and no unsound field, so it is expanded at the end of the path too, and
the first direction says with which result. -/
lemma expandFrom_eq_ok_iff_resolve (h : catalog.IsPath path model) {schema : Schema} :
    (catalog.expandFrom path model).outcome = .ok schema ↔
      (catalog.resolve model).outcome = .ok schema := by
  rw [resolve_eq]
  have alone {schema : Schema} (hs : (catalog.expandFrom path model).outcome = .ok schema) :
      (catalog.expandFrom [model.name] model).outcome = .ok schema :=
    expandFrom_of_subset h (by simpa using h.name_mem) hs
  refine ⟨alone, fun hs => ?_⟩
  have h₀ := IsPath.single h.mem
  obtain ⟨schema', hs'⟩ := exists_expandFrom_of_acyclic h
    (fun name hr => not_onCycle_of_expandFrom h₀ ⟨schema, hs⟩ hr)
    (fun target ht hr field hf => isSound_of_expandFrom h₀ ⟨schema, hs⟩ ht hr hf)
  have := alone hs'
  rw [hs] at this
  rw [hs', this]

/-! ## Routes -/

/-- The members of a base stand in the place of the reference when the field is settled. -/
lemma substituted?_settle {field : Field} {members : Schema} {schema : FieldSchema}
    (h : field.settle (.ofObject members) = .ok schema) :
    field.substituted? schema = some members := by
  obtain ⟨-, -, -, hitem, hfields⟩ := Field.settle_shape h
  unfold Field.substituted?
  rw [hitem, hfields]
  unfold Field.describe
  split <;> rfl

/-- In entries under the distinct names of fields, the one of a field is found under its name. -/
lemma get?_of_forall₂ {P : Field → FieldSchema → Prop} {fields : List Field} {schema : Schema}
    (hnodup : (fields.map Field.name).Nodup)
    (h : List.Forall₂ (fun field entry => entry.1 = field.name ∧ P field entry.2) fields schema)
    {field : Field} (hf : field ∈ fields) :
    ∃ s, Entries.get? schema field.name = some s ∧ P field s := by
  induction h with
  | nil => cases hf
  | @cons first entry fields schema hfirst hrest ih =>
    obtain ⟨hname, hP⟩ := hfirst
    obtain ⟨name, s⟩ := entry
    obtain rfl : name = first.name := hname
    rw [List.map_cons, List.nodup_cons] at hnodup
    unfold Entries.get?
    rcases List.mem_cons.1 hf with rfl | hf
    · exact ⟨s, if_pos rfl, hP⟩
    · have hne : first.name ≠ field.name := fun e => hnodup.1 (e ▸ List.mem_map_of_mem hf)
      rw [if_neg hne]
      exact ih hnodup.2 hf

/-- At the end of every route through the result of an expansion stands the schema of a model.

**Proof sketch.** Induction on the route. The first field is described by the members of the model
it refers to, which is expanded on a longer path. At the end the path has no influence. -/
lemma exists_along? (h : catalog.IsPath path model) {schema : Schema}
    (hs : (catalog.expandFrom path model).outcome = .ok schema) {route : List Field}
    {target : Model} (hroute : catalog.Route model route target) :
    ∃ members, schema.along? route = some members ∧
      (catalog.resolve target).outcome = .ok members := by
  induction hroute generalizing path schema with
  | nil model => exact ⟨schema, rfl, (expandFrom_eq_ok_iff_resolve h).1 hs⟩
  | @cons model next target field route name hf hb hnext hrest ih =>
    obtain ⟨entry, hentry, hmember⟩ :=
      get?_of_forall₂ (P := fun field entry => catalog.member path field = .ok entry)
        (catalog.wellDeclared.fieldNames model h.mem) (expandFrom_eq_ok.1 hs) hf
    obtain ⟨next', members, hn, hnext', hmembers, hsettle⟩ := exists_of_member h hf hb hmember
    obtain rfl : next = next' := Option.some.inj (hnext.symm.trans hnext')
    obtain ⟨final, halong, hfinal⟩ := ih (h.snoc hf hb hn hnext) hmembers
    refine ⟨final, ?_, hfinal⟩
    simp [Schema.along?, hentry, substituted?_settle hsettle, halong]

/-- **Expansion is substitution.** In the schema of a root, every route of references leads to the
members of the schema that the model at its end has on its own, so that two routes to one model lead
to the same members; and no path of models in expansion has an influence on a successful
expansion. -/
theorem resolve_is_substitution (catalog : Catalog) (root : Model) (hroot : root ∈ catalog.models)
    (schema : Schema) (hs : (catalog.resolve root).outcome = .ok schema) :
    (∀ route target, catalog.Route root route target → ∃ members,
      schema.along? route = some members ∧ (catalog.resolve target).outcome = .ok members) ∧
    (∀ route route' target, catalog.Route root route target → catalog.Route root route' target →
      schema.along? route = schema.along? route') ∧
    ∀ path model members, catalog.IsPath path model →
      ((catalog.expandFrom path model).outcome = .ok members ↔
        (catalog.resolve model).outcome = .ok members) := by
  have along : ∀ route target, catalog.Route root route target → ∃ members,
      schema.along? route = some members ∧ (catalog.resolve target).outcome = .ok members := by
    intro route target hroute
    rw [resolve_eq] at hs
    exact exists_along? (IsPath.single hroot) hs hroute
  refine ⟨along, fun route route' target hroute hroute' => ?_, fun path model members h => ?_⟩
  · obtain ⟨members, halong, hmembers⟩ := along route target hroute
    obtain ⟨members', halong', hmembers'⟩ := along route' target hroute'
    rw [hmembers] at hmembers'
    cases hmembers'
    rw [halong, halong']
  · exact expandFrom_eq_ok_iff_resolve h

/-! ### Two routes to one model -/

namespace Drawing

/-- A point with a coordinate. -/
def point : Model :=
  ⟨"Point", ⟨1, 7⟩, [⟨"x", ⟨1, 15⟩, { base := .primitive .number }, [], false⟩]⟩

/-- The field of a line for the point where it starts. -/
def start : Field :=
  ⟨"start", ⟨2, 14⟩, { base := .model "Point" }, [], false⟩

/-- The field of a line for any further points. -/
def further : Field :=
  ⟨"further", ⟨2, 28⟩, { base := .model "Point", isArray := true }, [], true⟩

/-- A line, which refers to points twice. -/
def line : Model :=
  ⟨"Line", ⟨2, 7⟩, [start, further]⟩

/-- The catalog of points and lines. -/
def declarations : Catalog :=
  ⟨[point, line], by decide⟩

/-- The members of a point. -/
def pointSchema : Schema :=
  [("x", { kind := .number, required := true })]

/-- The members of a line. -/
def lineSchema : Schema :=
  [("start", { FieldSchema.ofObject pointSchema with required := true }),
    ("further", .ofArray { FieldSchema.ofObject pointSchema with required := true })]

end Drawing

/-- The point where a line starts and its further points have the same members. -/
theorem resolve_is_substitution_line :
    Drawing.line ∈ Drawing.declarations.models ∧
      (Drawing.declarations.resolve Drawing.line).outcome = .ok Drawing.lineSchema ∧
      Drawing.lineSchema.along? [Drawing.start] = Drawing.lineSchema.along? [Drawing.further] := by
  have hline : Drawing.line ∈ Drawing.declarations.models :=
    List.mem_cons_of_mem _ List.mem_cons_self
  have hresolve : (Drawing.declarations.resolve Drawing.line).outcome = .ok Drawing.lineSchema := by
    decide +kernel
  obtain ⟨-, same, -⟩ := resolve_is_substitution _ _ hline _ hresolve
  refine ⟨hline, hresolve, same _ _ Drawing.point ?_ ?_⟩
  · exact .cons List.mem_cons_self rfl rfl (.nil Drawing.point)
  · exact .cons (List.mem_cons_of_mem _ List.mem_cons_self) rfl rfl (.nil Drawing.point)

end Catalog

end ModelSchema
