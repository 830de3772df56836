import Mathlib.Data.List.Forall2
import ModelSchema.Proofs.Occurrences
import ModelSchema.Proofs.ReadBack

set_option autoImplicit false

/-!
# Forms of compiled schemas

The form of a compiled schema has the tree of its names. Every declared field that the root leads to
has one entry, and the entry shows what is declared about the field.

## Main definitions

* `FieldSchema.nodesBelow`, `Schema.nodes` — the fields of a schema with the names on the way, in
  depth-first order.
* `FormField.nodesBelow`, `Form.nodes` — the same for the entries of a form.
* `FieldSchema.Mirrors` — what the entry of a field shows.
* `Field.Presents` — what the declaration of a field says about its entry.

## Main results

* `FieldSchema.mirrors_form` — the entry of a field shows what its description says.
* `Catalog.Expands.nodes_schema` — the fields of the schema of a tree are those of its places.
* `Catalog.Expands.forall₂_nodes_form` — a form has the names of a schema, if that is the schema of
  a tree.
* `Compilation.form_mirrors_schema` — the form of a compiled schema.
-/

namespace ModelSchema

/-! ## Names on the way -/

/-- Something that stands in a tree of named members, with the names on the way to it. -/
abbrev Node (α : Type) := List String × α

/-- The same below a member of a name. -/
def Node.under {α : Type} (name : String) (node : Node α) : Node α :=
  (name :: node.1, node.2)

mutual

/-- The fields below a field: its members and those of its elements, and what is below these. -/
def FieldSchema.nodesBelow : FieldSchema → List (Node FieldSchema)
  | { item, fields, .. } => itemNodes item ++ fieldsNodes fields

/-- The fields below an element. -/
def itemNodes : Option FieldSchema → List (Node FieldSchema)
  | none => []
  | some item => item.nodesBelow

/-- The members of an object, if they are described, and the fields below them. -/
def fieldsNodes : Option (List (String × FieldSchema)) → List (Node FieldSchema)
  | none => []
  | some fields => entriesNodes fields

/-- Members, each of them followed by the fields below it. -/
def entriesNodes : List (String × FieldSchema) → List (Node FieldSchema)
  | [] => []
  | (name, field) :: fields =>
    ([name], field) :: field.nodesBelow.map (Node.under name) ++ entriesNodes fields

end

/-- The fields of a schema at every depth, in depth-first order. -/
def Schema.nodes (schema : Schema) : List (Node FieldSchema) :=
  entriesNodes schema

mutual

/-- The entries below an entry. -/
def FormField.nodesBelow : FormField → List (Node FormField)
  | { children, .. } => childrenNodes children

/-- The entries below an entry, if there are any. -/
def childrenNodes : Option (List (String × FormField)) → List (Node FormField)
  | none => []
  | some entries => entryNodes entries

/-- Entries, each of them followed by those below it. -/
def entryNodes : List (String × FormField) → List (Node FormField)
  | [] => []
  | (name, entry) :: entries =>
    ([name], entry) :: entry.nodesBelow.map (Node.under name) ++ entryNodes entries

end

/-- The entries of a form at every depth, in depth-first order. -/
def Form.nodes (form : Form) : List (Node FormField) :=
  entryNodes form

/-! ## Single entries -/

/-- What the entry of a field shows at an instant. It starts with the default that is given, be that
null; else with null, where that is allowed; else with the first literal that the field is
restricted to; else with the blank of its kind. It has entries below it exactly for an object with
members and for an array of such objects. -/
structure FieldSchema.Mirrors (now : Instant) (field : FieldSchema) (entry : FormField) : Prop where
  shown : entry.isShown = !field.hidden
  required : entry.isRequired = field.marked
  enabled : entry.isDisabled = false
  unchecked : entry.isChecked = false
  given : ∀ literal, field.initial = some literal → entry.initial = literal.toJson
  null : field.initial = none → field.nullable = true → entry.initial = .null
  restricted : ∀ first others, field.initial = none → field.nullable = false →
    field.choices = some (first :: others) → entry.initial = first.toJson
  blank : field.initial = none → field.nullable = false →
    (∀ first others, field.choices ≠ some (first :: others)) →
    entry.initial = field.kind.blank now
  object : ∀ members, field.kind = .object → field.fields = some members →
    entry.children = some (Schema.form now members)
  array : ∀ item members, field.kind = .array → field.item = some item →
    item.fields = some members →
    entry.children = some (Schema.form now members)
  bare : (field.kind = .object → field.fields = none) →
    (field.kind = .array → ∀ item, field.item = some item → item.fields = none) →
      entry.children = none

namespace FieldSchema

/-- The entry of a field shows what its description says. -/
theorem mirrors_form (now : Instant) (field : FieldSchema) :
    field.Mirrors now (field.form now) := by
  rw [form_eq]
  constructor
  case shown => rfl
  case required => rfl
  case enabled => rfl
  case unchecked => rfl
  case given =>
    intro literal h
    simp [FieldSchema.blank, h]
  case null =>
    intro h hnullable
    simp [FieldSchema.blank, h, hnullable]
  case restricted =>
    intro first others h hnullable hchoices
    simp [FieldSchema.blank, h, hnullable, hchoices]
  case blank =>
    intro h hnullable hchoices
    simp [FieldSchema.blank, h, hnullable]
  case object =>
    intro members hkind hfields
    simp only [childrenForm, hkind, hfields]
    rfl
  case array =>
    intro item members hkind hitem hmembers
    simp only [childrenForm, hkind, hitem, itemForm_eq_bind, Option.bind_some, hmembers]
    rfl
  case bare =>
    intro hobject harray
    dsimp only [childrenForm]
    split
    · next hkind =>
      rw [hobject hkind]
      rfl
    · next hkind =>
      rw [itemForm_eq_bind, Option.bind_eq_none_iff]
      intro item hitem
      rw [harray hkind item hitem]
      rfl
    · rfl

end FieldSchema

/-- The entry at a node of a form shows the field at a node of a schema, under the same names. -/
def Node.Mirrors (now : Instant) (node : Node FieldSchema) (entry : Node FormField) : Prop :=
  node.1 = entry.1 ∧ node.2.Mirrors now entry.2

/-- Members have the entries of a form when the first one and the others have. -/
lemma Schema.forall₂_nodes_cons {now : Instant} {name : String} {field : FieldSchema}
    {members : Schema}
    (hbelow : List.Forall₂ (Node.Mirrors now) field.nodesBelow
        (childrenNodes (field.childrenForm now)))
    (hmembers : List.Forall₂ (Node.Mirrors now) (Schema.nodes members)
        (Schema.form now members).nodes) :
    List.Forall₂ (Node.Mirrors now) (Schema.nodes ((name, field) :: members))
      (Schema.form now ((name, field) :: members)).nodes := by
  have hentry : (field.form now).nodesBelow = childrenNodes (field.childrenForm now) := by
    rw [FieldSchema.form_eq, FormField.nodesBelow]
  have hunder : List.Forall₂ (Node.Mirrors now) (field.nodesBelow.map (Node.under name))
      ((field.form now).nodesBelow.map (Node.under name)) := by
    rw [hentry, List.forall₂_map_left_iff, List.forall₂_map_right_iff]
    exact hbelow.imp fun _ _ hnode => ⟨congrArg (name :: ·) hnode.1, hnode.2⟩
  exact .cons ⟨rfl, field.mirrors_form now⟩ (List.rel_append hunder hmembers)

/-! ## Settled fields -/

/-- The kind of a field that holds one value of a base type. -/
def BaseType.kind : BaseType → FieldKind
  | .primitive kind => kind
  | .model _ => .object

/-- What a declaration says about the entry of its field. Of decorators that say the same the last
one counts, and a question mark does not count. -/
structure Field.Presents (field : Field) (description : FieldSchema) : Prop where
  kind : description.kind = if field.type.isArray then .array else field.type.base.kind
  nullable : description.nullable = field.type.isNullable
  choices : description.choices = ((field.last? "enum").map fun d => some d.arguments).getD
    (field.type.union.map fun members => members.map .string)
  initial : description.initial = ((field.last? "value").map fun d => d.arguments.head?).getD none
  hidden : description.hidden =
    ((field.last? "show").map fun d => d.arguments == [.bool false]).getD false
  marked : description.marked =
    ((field.last? "required").map fun d => d.arguments != [.bool false]).getD false

/-- A switch is on unless it is turned off. -/
lemma Decorator.eq_of_switch_eq_ok {decorator : Decorator} {b : Bool}
    (h : decorator.switch = .ok b) : b = (decorator.arguments != [.bool false]) := by
  unfold switch at h
  split at h
  · next hnone =>
    cases h
    rw [hnone]
    rfl
  · next hflag =>
    cases h
    rw [hflag]
    cases b <;> rfl
  · cases h

namespace Field

variable {field : Field} {base description : FieldSchema}

/-- The last decorator of a name decides what the decorators of that name say of a settled field. -/
lemma attribute_of_settle {β : Type} (π : FieldSchema → β) {name : String} (meaning : Decorator → β)
    (hname : name ∈ Decorator.keywords)
    (own : ∀ (s : FieldSchema) (d : Decorator) (a : Annotation), d.name = name →
        d.annotation = .ok (some a) → π (a.apply s) = meaning d)
    (other : ∀ (s : FieldSchema) (a : Annotation), a.keyword ≠ name → π (a.apply s) = π s)
    (h : field.settle base = .ok description) :
    π description = ((field.last? name).map meaning).getD (π (field.describe base)) := by
  obtain ⟨schema, hs, hbounds⟩ := Outcome.bind_eq_ok.1 h
  obtain ⟨rfl, -⟩ := checkBounds_eq_ok.1 hbounds
  refine project_annotate π name meaning ?_ ?_ hs
  · intro s d a hn ha
    cases a with
    | none =>
      exact absurd ha (Decorator.annotation_ne_none (by simpa [Decorator.isKnown, hn] using hname))
    | some a => exact own s d a hn ha
  · rintro s d (_ | a) hn ha
    · rfl
    · exact other s a (by rwa [← Decorator.name_eq_keyword ha])

/-- The literals that a field is restricted to are those of its last decorator for them. -/
lemma choices_eq_of_settle (h : field.settle base = .ok description) :
    description.choices =
      ((field.last? "enum").map fun d => some d.arguments).getD (field.describe base).choices := by
  refine attribute_of_settle (·.choices) (fun d => some d.arguments) (by decide)
    (fun s d a hn ha => ?_)
    (fun s a ha => ?_) h
  · unfold Decorator.annotation at ha
    simp only [hn] at ha
    obtain ⟨vs, hvs, ⟨⟩⟩ := Outcome.map_eq_ok.1 ha
    unfold Decorator.values at hvs
    split at hvs <;> cases hvs
    rfl
  · cases a <;> first | rfl | exact absurd rfl ha

/-- The default of a field is that of its last decorator for it. -/
lemma initial_eq_of_settle (h : field.settle base = .ok description) :
    description.initial =
      ((field.last? "value").map fun d => d.arguments.head?).getD
        (field.describe base).initial := by
  refine attribute_of_settle (·.initial) (fun d => d.arguments.head?) (by decide)
    (fun s d a hn ha => ?_)
    (fun s a ha => ?_) h
  · unfold Decorator.annotation at ha
    simp only [hn] at ha
    obtain ⟨v, hv, ⟨⟩⟩ := Outcome.map_eq_ok.1 ha
    unfold Decorator.value at hv
    split at hv
    · next harguments =>
      cases hv
      rw [harguments]
      rfl
    · cases hv
  · cases a <;> first | rfl | exact absurd rfl ha

/-- A field is hidden when its last decorator for that says not to show it. -/
lemma hidden_eq_of_settle (h : field.settle base = .ok description) :
    description.hidden =
      ((field.last? "show").map fun d => d.arguments == [.bool false]).getD
        (field.describe base).hidden := by
  refine attribute_of_settle (·.hidden) (fun d => d.arguments == [.bool false]) (by decide)
    (fun s d a hn ha => ?_)
    (fun s a ha => ?_) h
  · unfold Decorator.annotation at ha
    simp only [hn] at ha
    obtain ⟨b, hb, ⟨⟩⟩ := Outcome.map_eq_ok.1 ha
    rw [Decorator.eq_of_switch_eq_ok hb]
    exact Bool.not_not _
  · cases a <;> first | rfl | exact absurd rfl ha

/-- A field is marked as required when its last decorator for that does not say otherwise. -/
lemma marked_eq_of_settle (h : field.settle base = .ok description) :
    description.marked =
      ((field.last? "required").map fun d => d.arguments != [.bool false]).getD
        (field.describe base).marked := by
  refine attribute_of_settle (·.marked) (fun d => d.arguments != [.bool false]) (by decide)
    (fun s d a hn ha => ?_)
    (fun s a ha => ?_) h
  · unfold Decorator.annotation at ha
    simp only [hn] at ha
    obtain ⟨b, hb, ⟨⟩⟩ := Outcome.map_eq_ok.1 ha
    exact Decorator.eq_of_switch_eq_ok hb
  · cases a <;> first | rfl | exact absurd rfl ha

/-- A field that is settled on a base about which nothing has been said is presented as it is
declared. -/
lemma presents_of_settle (hkind : base.kind = field.type.base.kind) (hinitial : base.initial = none)
    (hhidden : base.hidden = false) (hmarked : base.marked = false)
    (h : field.settle base = .ok description) : field.Presents description := by
  obtain ⟨hdkind, -, hdnullable, -, -⟩ := settle_shape h
  have hdescribe : (field.describe base).kind =
      (if field.type.isArray then .array else field.type.base.kind) ∧
      (field.describe base).initial = none ∧ (field.describe base).hidden = false ∧
        (field.describe base).marked = false := by
    unfold describe
    split
    · exact ⟨rfl, rfl, rfl, rfl⟩
    · exact ⟨hkind, hinitial, hhidden, hmarked⟩
  obtain ⟨hk, hi, hh, hm⟩ := hdescribe
  exact
    { kind := hdkind.trans hk
      nullable := hdnullable
      choices := choices_eq_of_settle h
      initial := (initial_eq_of_settle h).trans (congrArg _ hi)
      hidden := (hidden_eq_of_settle h).trans (congrArg _ hh)
      marked := (marked_eq_of_settle h).trans (congrArg _ hm) }

/-- What is below a settled field is what is below its base: brackets are no level of their own. -/
lemma nodesBelow_of_settle (h : field.settle base = .ok description) :
    description.nodesBelow = base.nodesBelow := by
  have nodesBelow_eq (f : FieldSchema) : f.nodesBelow =
      itemNodes f.item ++ fieldsNodes f.fields := by
    cases f
    rfl
  obtain ⟨-, -, -, hitem, hfields⟩ := settle_shape h
  rw [nodesBelow_eq, hitem, hfields]
  unfold describe
  split
  · rw [nodesBelow_eq base]
    exact List.append_nil _
  · exact (nodesBelow_eq base).symm

variable (now : Instant)

/-- The entries below that of a settled field are those for the members of its base, if that is an
object or has no members. -/
lemma childrenForm_of_settle (hitem : base.item = none)
    (hbase : base.kind = .object ∨ base.fields = none) (h : field.settle base = .ok description) :
    description.childrenForm now = fieldsForm now base.fields := by
  obtain ⟨hkind, -, -, hditem, hdfields⟩ := settle_shape h
  unfold FieldSchema.childrenForm
  rw [hkind, hditem, hdfields]
  unfold describe
  cases field.type.isArray with
  | true => rfl
  | false =>
    change base.childrenForm now = fieldsForm now base.fields
    unfold FieldSchema.childrenForm
    obtain hobject | hnone := hbase
    · rw [hobject]
    · rw [hitem, hnone]
      cases base.kind <;> rfl

end Field

/-! ## Whole forms -/

namespace Catalog.Expands

variable {catalog : Catalog} {fields : List Field} {occurrences : List Occurrence}

/-- The fields of the schema of a tree are those of its places, in order. -/
theorem nodes_schema (h : catalog.Expands fields occurrences) :
    (Occurrence.schema occurrences).nodes =
      (Occurrence.membersPlaces occurrences).map fun place => (place.names, place.description) := by
  induction h with
  | nil => rfl
  | @value field fields kind description occurrences base settled _ ih =>
    have hbelow : description.nodesBelow = [] := Field.nodesBelow_of_settle settled
    change ([field.name], description) :: description.nodesBelow.map (Node.under field.name) ++
      (Occurrence.schema occurrences).nodes = _
    rw [hbelow, ih, Occurrence.membersPlaces, Occurrence.places]
    rfl
  | @reference field fields model description members occurrences base declared inside settled _
      ihinside ih =>
    have hbelow : description.nodesBelow = (Occurrence.schema members).nodes :=
      Field.nodesBelow_of_settle settled
    change ([field.name], description) :: description.nodesBelow.map (Node.under field.name) ++
      (Occurrence.schema occurrences).nodes = _
    rw [hbelow, ihinside, ih, Occurrence.membersPlaces, Occurrence.places, List.map_append,
      List.map_cons, List.map_map, List.map_map]
    rfl

/-- Every field of a tree is presented as it is declared. -/
theorem presents (h : catalog.Expands fields occurrences) :
    ∀ place ∈ Occurrence.membersPlaces occurrences, place.field.Presents place.description := by
  induction h with
  | nil => exact List.forall_mem_nil _
  | value base settled _ ih =>
    rw [Occurrence.membersPlaces, Occurrence.places, List.singleton_append]
    refine List.forall_mem_cons.2 ⟨Field.presents_of_settle ?_ rfl rfl rfl settled, ih⟩
    rw [base]
    rfl
  | reference base declared inside settled _ ihinside ih =>
    rw [Occurrence.membersPlaces, Occurrence.places]
    refine List.forall_mem_append.2
      ⟨List.forall_mem_cons.2 ⟨?_, List.forall_mem_map.2 ihinside⟩, ih⟩
    refine Field.presents_of_settle ?_ rfl rfl rfl settled
    rw [base]
    rfl

/-- A form has the entries of a schema, under the same names and in the same order, if that is the
schema of a tree.

**Proof sketch.** Induction on the occurrences. The entries below that of a field are those for the
members of the model that the field refers to, be it in an array or not, and so are the fields below
it. -/
theorem forall₂_nodes_form (h : catalog.Expands fields occurrences) (now : Instant) :
    List.Forall₂ (Node.Mirrors now) (Occurrence.schema occurrences).nodes
      ((Occurrence.schema occurrences).form now).nodes := by
  induction h with
  | nil => exact .nil
  | value _ settled _ ih =>
    refine Schema.forall₂_nodes_cons ?_ ih
    rw [Occurrence.description, Field.nodesBelow_of_settle settled,
      Field.childrenForm_of_settle now rfl (.inr rfl) settled]
    exact .nil
  | reference _ _ _ settled _ ihinside ih =>
    refine Schema.forall₂_nodes_cons ?_ ih
    rw [Occurrence.description, Field.nodesBelow_of_settle settled,
      Field.childrenForm_of_settle now rfl (.inl rfl) settled]
    exact ihinside

end Catalog.Expands

namespace Compilation

/-- **The form of a compiled schema mirrors it.** At every instant the form has the entries of the
schema, under the same names and in the same order at every depth, and each of them shows its field
as the schema describes it. Every declared field that the root leads to, through objects and the
elements of arrays, has exactly one entry for every way to it, and is described as it is declared;
and there are no other entries.

**Proof sketch.** The schema is that of a tree, the places of which are the ways from the root. Of a
field that refers to a model, as it is or in brackets, the schema and the form have the members of
the model below, and nothing else. -/
theorem form_mirrors_schema (text : String) (options : CompileOptions) (compilation : Compilation)
    (h : compile text options = .ok compilation) (now : Instant) :
    List.Forall₂ (Node.Mirrors now) compilation.schema.nodes (compilation.schema.form now).nodes ∧
    (compilation.schema.nodes.map (·.1)).Nodup ∧
    ∃ (catalog : Catalog) (root : Model), catalog.models = compilation.models ∧
      root ∈ catalog.models ∧ root.name = compilation.root ∧
      (∀ route target field, catalog.Route root route target → field ∈ target.fields →
        ∃ description,
          (route.map Field.name ++ [field.name], description) ∈ compilation.schema.nodes ∧
            field.Presents description) ∧
      ∀ node ∈ compilation.schema.nodes, ∃ route target field, catalog.Route root route target ∧
        field ∈ target.fields ∧ node.1 = route.map Field.name ++ [field.name] := by
  obtain ⟨-, catalog, root, occurrences, -, htree, -, -⟩ := exists_hasTree h
  have hexpands := htree.expands
  have hnodes := hexpands.nodes_schema
  rw [← htree.schema]
  refine ⟨hexpands.forall₂_nodes_form now, ?_, catalog, root, htree.models, htree.declared,
    htree.named, fun route target field hroute hf => ?_, fun node hnode => ?_⟩
  · rw [hnodes, List.map_map]
    exact hexpands.nodup_names (catalog.wellDeclared.fieldNames root htree.declared)
  · obtain ⟨description, hplace⟩ := hexpands.exists_mem_places_iff.2 ⟨target, hroute, hf⟩
    exact ⟨description, hnodes ▸ List.mem_map.2 ⟨_, hplace, rfl⟩, hexpands.presents _ hplace⟩
  · obtain ⟨⟨route, field, description⟩, hplace, rfl⟩ := List.mem_map.1 (hnodes ▸ hnode)
    obtain ⟨target, hroute, hf⟩ := hexpands.exists_mem_places_iff.1 ⟨description, hplace⟩
    exact ⟨route, target, field, hroute, hf, rfl⟩

/-! ### A point, and an array of points -/

/-- A line in a colour, with a point where it starts and any further points. -/
def lineText : String :=
  "model Point \x7b x: number | null; \x7d\n" ++
    "model Line \x7b a: Point; b?: Point[]; c: \"red\" | \"blue\" @value(null); \x7d"

/-- The schema of that line. -/
def lineSchema : Schema :=
  let point :=
    { FieldSchema.ofObject [("x", { kind := .number, required := true, nullable := true })]
      with required := true }
  [("a", point), ("b", FieldSchema.ofArray point),
    ("c",
      { kind := .string, required := true, choices := some [.string "red", .string "blue"],
        initial := some .null })]

/-- The form of a line has an entry for the coordinate of the point where it starts, and one for
that of its further points. -/
theorem form_mirrors_schema_line :
    ∃ compilation, compile lineText {} = .ok compilation ∧ compilation.schema = lineSchema ∧
      ∀ now, (compilation.schema.form now).nodes.map (·.1) =
          [["a"], ["a", "x"], ["b"], ["b", "x"], ["c"]] := by
  have hschema : compileSchema lineText {} = .ok lineSchema := by decide +kernel
  obtain ⟨compilation, h, hs⟩ := Outcome.map_eq_ok.1 hschema
  refine ⟨compilation, h, hs, fun now => ?_⟩
  obtain ⟨hmirrors, -⟩ := form_mirrors_schema lineText {} compilation h now
  have hnames : compilation.schema.nodes.map (·.1) =
      (compilation.schema.form now).nodes.map (·.1) :=
    Outcome.map_eq_map_iff_forall₂.2 (hmirrors.imp fun _ _ hnode => hnode.1)
  rw [← hnames, hs]
  rfl

end Compilation

end ModelSchema
