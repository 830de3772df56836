import ModelSchema.Proofs.Occurrences

set_option autoImplicit false

/-!
# The log of a compilation

The events of a compilation that succeeds follow the tree that it expands its root to. Every
reference is noted where it comes up in the tree, and every decorator without a meaning once for
each place of its field.

## Main definitions

* `Place.expanding?` — the event of the reference at a place.
* `Occurrence.Inside` — the fields that occur at the end of a route.
* `Occurrence.referenceLog` — the events of what a field refers to.

## Main results

* `Catalog.Expands.traces_log` — references are noted in depth-first order.
* `Catalog.Expands.warnings_log` — decorators without a meaning are noted at every place of their
  field.
* `Occurrence.Inside.exists_log_eq` — where the events of a field stand.
* `Compilation.log_follows_tree` — the events of a compilation that succeeds.
-/

namespace ModelSchema

/-- The event of the reference at a place, if the field there refers to a model, in a tree of which
the fields are those of a model at a depth. -/
def Place.expanding? (depth : Nat) (place : Place) : Option Event :=
  match place.field.type.base with
  | .model name => some (.expanding name (depth + place.route.length + 1))
  | .primitive _ => none

/-- Inside of what a field refers to, the depth is greater by one. -/
lemma Place.expanding?_under (depth : Nat) (field : Field) (place : Place) :
    (place.under field).expanding? depth = place.expanding? (depth + 1) := by
  have hdepth : depth + (field :: place.route).length + 1 = depth + 1 + place.route.length + 1 := by
    rw [List.length_cons]
    omega
  unfold expanding?
  dsimp only [under]
  rw [hdepth]

/-- The events of a field itself are all warnings. -/
lemma Field.level_of_mem_warnings {field : Field} {e : Event} (h : e ∈ field.warnings) :
    e.level = .warn := by
  obtain ⟨d, -, rfl⟩ := List.mem_map.1 h
  rfl

/-! ## The events of each level -/

namespace Catalog.Expands

variable {catalog : Catalog} {fields : List Field} {occurrences : List Occurrence}

/-- References are noted in depth-first order, with the depth of the model that holds the field and
one more.

**Proof sketch.** Induction on the occurrences. A reference is noted before those below it, for
which the depth is greater by one. -/
theorem traces_log (h : catalog.Expands fields occurrences) (depth : Nat) :
    (Occurrence.membersLog depth occurrences).filter (·.level = .trace) =
      (Occurrence.membersPlaces occurrences).filterMap (Place.expanding? depth) := by
  have hwarnings (field : Field) : field.warnings.filter (·.level = .trace) = [] := by
    refine List.filter_eq_nil_iff.2 fun e he => ?_
    simp [Field.level_of_mem_warnings he]
  induction h generalizing depth with
  | nil => rfl
  | @value field fields kind description occurrences base _ _ ih =>
    have hnone : Place.expanding? depth ⟨[], field, description⟩ = none := by
      simp [Place.expanding?, base]
    rw [Occurrence.membersLog, Occurrence.log, List.filter_append, hwarnings, ih,
      Occurrence.membersPlaces, Occurrence.places, List.singleton_append,
      List.filterMap_cons_none hnone, List.nil_append]
  | @reference field fields model description members occurrences base _ _ _ _ ihinside ih =>
    have hsome : Place.expanding? depth ⟨[], field, description⟩ =
        some (.expanding model.name (depth + 1)) := by
      simp [Place.expanding?, base]
    have hunder : Place.expanding? depth ∘ Place.under field = Place.expanding? (depth + 1) :=
      funext (Place.expanding?_under depth field)
    rw [Occurrence.membersLog, Occurrence.log, List.filter_append, List.filter_append, hwarnings,
      ih, List.filter_cons_of_pos rfl, ihinside, Occurrence.membersPlaces, Occurrence.places,
      List.filterMap_append, List.filterMap_cons_some hsome, List.filterMap_map, hunder,
      List.append_nil]

/-- Every decorator without a meaning is noted once at every place of its field.

**Proof sketch.** Induction on the occurrences. In the log a field comes after those below it, and
in the list of places before them. -/
theorem warnings_log (h : catalog.Expands fields occurrences) (depth : Nat) :
    ((Occurrence.membersLog depth occurrences).filter (·.level = .warn)).Perm
      ((Occurrence.membersPlaces occurrences).flatMap fun place => place.field.warnings) := by
  have hwarnings (field : Field) : field.warnings.filter (·.level = .warn) = field.warnings := by
    refine List.filter_eq_self.2 fun e he => ?_
    simp [Field.level_of_mem_warnings he]
  induction h generalizing depth with
  | nil => exact .nil
  | @value field fields kind description occurrences _ _ _ ih =>
    rw [Occurrence.membersLog, Occurrence.log, List.filter_append, hwarnings,
      Occurrence.membersPlaces, Occurrence.places, List.singleton_append, List.flatMap_cons]
    exact (ih depth).append_left _
  | @reference field fields model description members occurrences _ _ _ _ _ ihinside ih =>
    have hunder :
        ((Occurrence.membersPlaces members).map (Place.under field)).flatMap
            (fun place => place.field.warnings) =
          (Occurrence.membersPlaces members).flatMap fun place => place.field.warnings :=
      List.flatMap_map ..
    rw [Occurrence.membersLog, Occurrence.log, List.filter_append, List.filter_append, hwarnings,
      List.filter_cons_of_neg (by simp [Event.level]), Occurrence.membersPlaces, Occurrence.places,
      List.flatMap_append, List.flatMap_cons, hunder]
    exact (((ihinside (depth + 1)).append_right _).trans List.perm_append_comm).append (ih depth)

end Catalog.Expands

/-! ## Where the events of a field stand -/

namespace Occurrence

/-- The fields that occur at the end of a route through an expanded model. -/
inductive Inside : List Occurrence → List Field → List Occurrence → Prop where
  | here (occurrences : List Occurrence) : Inside occurrences [] occurrences
  | deeper {occurrences members inner : List Occurrence} {field : Field} {route : List Field}
      {description : FieldSchema} {model : Model}
      (mem : .reference field description model members ∈ occurrences)
      (rest : Inside members route inner) : Inside occurrences (field :: route) inner

/-- The events of what a field refers to, in a model at a depth. -/
def referenceLog (depth : Nat) : Occurrence → List Event
  | value _ _ => []
  | reference _ _ model members =>
    .expanding model.name (depth + 1) :: membersLog (depth + 1) members

/-- The events of an occurrence are those of what it refers to and then its warnings. -/
lemma log_eq (depth : Nat) (occurrence : Occurrence) :
    occurrence.log depth = occurrence.referenceLog depth ++ occurrence.field.warnings := by
  cases occurrence <;> rfl

/-- The events of occurrences in a row come one part after another. -/
lemma membersLog_append (depth : Nat) (before after : List Occurrence) :
    membersLog depth (before ++ after) = membersLog depth before ++ membersLog depth after := by
  induction before with
  | nil => rfl
  | cons occurrence before ih =>
    rw [List.cons_append, membersLog, membersLog, ih, List.append_assoc]

/-- The events of the fields at the end of a route stand together, at a depth that is greater by one
for every field on the way. -/
lemma Inside.exists_log_eq {occurrences inner : List Occurrence} {route : List Field}
    (h : Inside occurrences route inner) (depth : Nat) :
    ∃ earlier later, membersLog depth occurrences =
      earlier ++ membersLog (depth + route.length) inner ++ later := by
  induction h generalizing depth with
  | here occurrences => exact ⟨[], [], by simp⟩
  | @deeper occurrences members inner field route description model mem _ ih =>
    obtain ⟨before, after, rfl⟩ := List.append_of_mem mem
    obtain ⟨earlier, later, hlog⟩ := ih (depth + 1)
    have hdepth : depth + (field :: route).length = depth + 1 + route.length := by
      rw [List.length_cons, Nat.add_assoc, Nat.add_comm 1]
    refine ⟨membersLog depth before ++ .expanding model.name (depth + 1) :: earlier,
      later ++ field.warnings ++ membersLog depth after, ?_⟩
    rw [membersLog_append, membersLog, log, hlog, hdepth]
    simp

/-- The warnings of a field stand between the events of what it refers to and those of the next
fields. -/
lemma Inside.exists_log_eq_of_split {occurrences before after : List Occurrence}
    {occurrence : Occurrence} {route : List Field}
    (h : Inside occurrences route (before ++ occurrence :: after)) (depth : Nat) :
    ∃ earlier later, membersLog depth occurrences =
      earlier ++ membersLog (depth + route.length) before ++
        (occurrence.referenceLog (depth + route.length) ++ occurrence.field.warnings) ++
          membersLog (depth + route.length) after ++ later := by
  obtain ⟨earlier, later, hlog⟩ := h.exists_log_eq depth
  refine ⟨earlier, later, ?_⟩
  rw [hlog, membersLog_append, membersLog, log_eq]
  simp only [List.append_assoc]

end Occurrence

/-! ## Compilations -/

/-- The last token of a text is its end. -/
lemma Token.exists_concat_of_ofText {text : String} {tokens : List Token}
    (h : ofText text = .ok tokens) :
    ∃ words stop, tokens = words ++ [stop] ∧ stop.kind = .endOfInput := by
  unfold ofText at h
  obtain ⟨words, -, h⟩ := Outcome.bind_eq_ok.1 h
  split at h <;> cases h
  exact ⟨words, _, rfl, rfl⟩

namespace Compilation

/-- **The log of a compilation follows the expanded tree.** A compilation that succeeds counts the
tokens, of which the last one is the end of the text, and the models, and it names the root; all
other events are those of the tree that the root is expanded to. The references are noted in
depth-first order, the root at depth one and every other model one deeper than the one that holds
the field. Every decorator without a meaning is noted once for each place of its field, after
everything that the field refers to and before the next field.

**Proof sketch.** The tree comes from the expansion, by the path of models in expansion; what its
log is made of is an induction on the tree. -/
theorem log_follows_tree (text : String) (options : CompileOptions) (compilation : Compilation)
    (h : compile text options = .ok compilation) :
    ∃ tokens catalog root occurrences, Token.ofText text = .ok tokens ∧
      (∃ words stop, tokens = words ++ [stop] ∧ stop.kind = .endOfInput) ∧
      compilation.HasTree catalog root occurrences ∧ options.root.Picks compilation.models root ∧
      (trace text options).events =
        [.tokenized tokens.length, .parsed compilation.models.length,
          .resolving root.name compilation.models.length, .expanding root.name 1] ++
        Occurrence.membersLog 1 occurrences ∧
      (trace text options).events.filter (·.level = .trace) =
        .expanding root.name 1 ::
          (Occurrence.membersPlaces occurrences).filterMap (Place.expanding? 1) ∧
      ((trace text options).events.filter (·.level = .warn)).Perm
        ((Occurrence.membersPlaces occurrences).flatMap fun place => place.field.warnings) ∧
      ∀ route before occurrence after,
        Occurrence.Inside occurrences route (before ++ occurrence :: after) →
        ∃ earlier later, (trace text options).events =
          earlier ++ Occurrence.membersLog (1 + route.length) before ++
            (occurrence.referenceLog (1 + route.length) ++ occurrence.field.warnings) ++
              Occurrence.membersLog (1 + route.length) after ++ later := by
  obtain ⟨tokens, catalog, root, occurrences, htokens, htree, hpicks, hevents⟩ := exists_hasTree h
  refine ⟨tokens, catalog, root, occurrences, htokens, Token.exists_concat_of_ofText htokens, htree,
    hpicks, hevents, ?_, ?_, fun route before occurrence after hinside => ?_⟩
  · rw [hevents, List.filter_append, htree.expands.traces_log]
    rfl
  · rw [hevents, List.filter_append]
    exact htree.expands.warnings_log 1
  · obtain ⟨earlier, later, hlog⟩ := hinside.exists_log_eq_of_split 1
    rw [hevents, hlog]
    exact ⟨_ ++ earlier, later, by simp only [List.append_assoc]; rfl⟩

/-! ### A model that is referred to twice -/

/-- A plan with lines and a point, where the unit of a coordinate has no meaning, and a note on a
line has none. -/
def planText : String :=
  "model Point \x7b x: number @unit; \x7d\nmodel Line \x7b a: Point @note; \x7d\n" ++
    "model Plan \x7b l: Line[]; p: Point; \x7d"

/-- The schema of the lines and the point of that plan. -/
def planSchema : Schema :=
  let point :=
    { FieldSchema.ofObject [("x", { kind := .number, required := true })] with required := true }
  let line := { FieldSchema.ofObject [("a", point)] with required := true }
  [("l", { FieldSchema.ofArray line with required := true }), ("p", point)]

/-- A point is noted at both places where the plan refers to it, and so is the unit of its
coordinate. -/
theorem log_follows_tree_plan :
    ∃ compilation catalog root occurrences, compile planText {} = .ok compilation ∧
      compilation.HasTree catalog root occurrences ∧
      (Occurrence.membersPlaces occurrences).filterMap (Place.expanding? 1) =
        [.expanding "Line" 2, .expanding "Point" 3, .expanding "Point" 2] ∧
      ((Occurrence.membersPlaces occurrences).flatMap fun place => place.field.warnings).Perm
        [.ignoring "unit" "x" ⟨1, 25⟩, .ignoring "note" "a" ⟨2, 23⟩,
          .ignoring "unit" "x" ⟨1, 25⟩] := by
  have hschema : compileSchema planText {} = .ok planSchema := by decide +kernel
  have hevents : (trace planText {}).events =
      [.tokenized 35, .parsed 3, .resolving "Plan" 3, .expanding "Plan" 1, .expanding "Line" 2,
        .expanding "Point" 3, .ignoring "unit" "x" ⟨1, 25⟩, .ignoring "note" "a" ⟨2, 23⟩,
        .expanding "Point" 2,
        .ignoring "unit" "x" ⟨1, 25⟩] := by decide +kernel
  obtain ⟨compilation, h, -⟩ := Outcome.map_eq_ok.1 hschema
  obtain ⟨-, catalog, root, occurrences, -, -, htree, -, -, htraces, hwarnings, -⟩ :=
    log_follows_tree planText {} compilation h
  rw [hevents] at htraces hwarnings
  exact ⟨compilation, catalog, root, occurrences, h, htree, (List.cons.inj htraces).2.symm,
    hwarnings.symm⟩

end Compilation

end ModelSchema
