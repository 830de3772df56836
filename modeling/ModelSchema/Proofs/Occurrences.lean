import ModelSchema.Proofs.Redecoration
import ModelSchema.Proofs.Substitution

set_option autoImplicit false

/-!
# Occurrences of fields

An expanded model is a tree. A declared field occurs in it once for every route of references that
leads to the model it is declared in, and below a field that refers to a model the fields of that
model occur.

## Main definitions

* `Occurrence` — a field in an expanded model, with what is below it.
* `Occurrence.schema` — the schema of an expanded model.
* `Catalog.Expands` — the occurrences of declared fields.
* `Place`, `Occurrence.places` — where the fields of an expanded model occur, in depth-first order.
* `Occurrence.log` — the events on the way to an expanded model.
* `Compilation.HasTree` — the tree that a compilation expands its root to.

## Main results

* `Catalog.exists_expands` — an expansion that succeeds is a tree, with its schema and its events.
* `Catalog.Expands.unique` — there is one tree at most.
* `Catalog.Expands.exists_mem_places_iff` — fields occur where routes of references lead.
* `Catalog.Expands.nodup_names` — no two places have the same names on the way.
-/

namespace ModelSchema

/-! ## Trees -/

/-- A field in an expanded model, with its description. A field that refers to a model has the
fields of that model below it. -/
inductive Occurrence where
  | value (field : Field) (description : FieldSchema)
  | reference (field : Field) (description : FieldSchema) (model : Model)
      (members : List Occurrence)

/-- Where a field occurs in an expanded model: the fields on the way, which refer to models, the
field itself, and how it is described there. -/
structure Place where
  route : List Field
  field : Field
  description : FieldSchema

namespace Place

/-- A place inside the model that a field refers to. -/
def under (field : Field) (place : Place) : Place :=
  { place with route := field :: place.route }

/-- The names of the fields on the way to a place, its own name included. -/
def names (place : Place) : List String :=
  place.route.map Field.name ++ [place.field.name]

/-- Below a field, a place has the name of that field in front. -/
@[simp]
lemma names_under (field : Field) (place : Place) :
    (place.under field).names = field.name :: place.names :=
  rfl

end Place

/-- The events of a field itself: every decorator without a meaning is noted. -/
def Field.warnings (field : Field) : List Event :=
  (field.decorators.filter fun d => !d.isKnown).map fun d => .ignoring d.name field.name d.position

namespace Occurrence

/-- The field that occurs. -/
def field : Occurrence → Field
  | value field _ | reference field _ _ _ => field

/-- What the field is described by. -/
def description : Occurrence → FieldSchema
  | value _ description | reference _ description _ _ => description

/-- The schema of an expanded model. -/
def schema (occurrences : List Occurrence) : Schema :=
  occurrences.map fun occurrence => (occurrence.field.name, occurrence.description)

mutual

/-- The places of a field that occurs: its own one, and then those of the fields below it. -/
def places : Occurrence → List Place
  | value field description => [⟨[], field, description⟩]
  | reference field description _ members =>
    ⟨[], field, description⟩ :: (membersPlaces members).map (Place.under field)

/-- The places of an expanded model, those of a field before those of its next sibling. -/
def membersPlaces : List Occurrence → List Place
  | [] => []
  | occurrence :: rest => occurrence.places ++ membersPlaces rest

end

mutual

/-- The events of a field that occurs in a model at a depth: those of the model that it refers to,
if it does, and then its own. -/
def log (depth : Nat) : Occurrence → List Event
  | value field _ => field.warnings
  | reference field _ model members =>
    .expanding model.name (depth + 1) :: membersLog (depth + 1) members ++ field.warnings

/-- The events of the fields of an expanded model at a depth, one after the other. -/
def membersLog (depth : Nat) : List Occurrence → List Event
  | [] => []
  | occurrence :: rest => occurrence.log depth ++ membersLog depth rest

end

/-- The way to a place of a field that occurs starts with the name of the field. -/
lemma exists_names_eq_cons {occurrence : Occurrence} {place : Place}
    (h : place ∈ occurrence.places) : ∃ names, place.names = occurrence.field.name :: names := by
  cases occurrence with
  | value field description =>
    obtain rfl := List.mem_singleton.1 h
    exact ⟨[], rfl⟩
  | reference field description model members =>
    obtain rfl | h := List.mem_cons.1 h
    · exact ⟨[], rfl⟩
    · obtain ⟨place, -, rfl⟩ := List.mem_map.1 h
      exact ⟨place.names, rfl⟩

end Occurrence

namespace Catalog

variable {catalog : Catalog} {path : List String} {model : Model}

/-- The occurrences of declared fields: each field is settled on the kind of its values or on the
schema of the model that it refers to. -/
inductive Expands (catalog : Catalog) : List Field → List Occurrence → Prop where
  | nil : Expands catalog [] []
  | value {field : Field} {fields : List Field} {kind : FieldKind} {description : FieldSchema}
      {occurrences : List Occurrence} (base : field.type.base = .primitive kind)
      (settled : field.settle (.ofKind kind) = .ok description)
      (rest : Expands catalog fields occurrences) :
      Expands catalog (field :: fields) (.value field description :: occurrences)
  | reference {field : Field} {fields : List Field} {model : Model} {description : FieldSchema}
      {members occurrences : List Occurrence} (base : field.type.base = .model model.name)
      (declared : model ∈ catalog.models) (inside : Expands catalog model.fields members)
      (settled : field.settle (.ofObject (Occurrence.schema members)) = .ok description)
      (rest : Expands catalog fields occurrences) :
      Expands catalog (field :: fields) (.reference field description model members :: occurrences)

/-- Fields have one tree at most. -/
theorem Expands.unique {fields : List Field} {occurrences occurrences' : List Occurrence}
    (h : catalog.Expands fields occurrences) (h' : catalog.Expands fields occurrences') :
    occurrences = occurrences' := by
  induction h generalizing occurrences' with
  | nil =>
    cases h'
    rfl
  | value base settled _ ih =>
    cases h' with
    | value base' settled' rest' =>
      rw [base] at base'
      cases base'
      rw [settled] at settled'
      cases settled'
      rw [ih rest']
    | reference base' =>
      rw [base] at base'
      cases base'
  | reference base declared _ settled _ ihinside ih =>
    cases h' with
    | value base' =>
      rw [base] at base'
      cases base'
    | reference base' declared' inside' settled' rest' =>
      rw [base] at base'
      obtain rfl := eq_of_name_eq declared declared' (BaseType.model.inj base')
      obtain rfl := ihinside inside'
      rw [settled] at settled'
      cases settled'
      rw [ih rest']

end Catalog

/-! ## Events on the way -/

namespace Traced

variable {α β : Type}

/-- The events of two computations in a row are those of the first one and then those of the second
one, if the first one succeeds. -/
lemma events_bind {x : Traced α} {f : α → Traced β} {a : α} (h : x.outcome = .ok a) :
    (x >>= f).events = x.events ++ (f a).events := by
  obtain ⟨events, outcome⟩ := x
  obtain rfl : outcome = .ok a := h
  rfl

end Traced

namespace Field

variable {field : Field} {reference : String → Traced Schema} {schema result : FieldSchema}

/-- Going over the decorators of a field notes those without a meaning, in order. -/
lemma events_annotate (h : (field.annotate schema).outcome = .ok result) :
    (field.annotate schema).events = field.warnings := by
  unfold annotate at h ⊢
  unfold warnings
  generalize field.decorators = ds at h ⊢
  induction ds generalizing schema with
  | nil => rfl
  | cons d ds ih =>
    rw [List.foldlM_cons] at h ⊢
    rw [Traced.outcome_bind] at h
    obtain ⟨next, hnext, hrest⟩ := Outcome.bind_eq_ok.1 h
    rw [Traced.events_bind hnext, ih hrest, List.filter_cons]
    rw [Traced.outcome_bind] at hnext
    obtain ⟨said, hsaid, -⟩ := Outcome.bind_eq_ok.1 hnext
    rw [Traced.events_bind hsaid]
    have hannotation : d.annotation = .ok said := hsaid
    cases hknown : d.isKnown with
    | true =>
      cases said with
      | none => exact absurd hannotation (Decorator.annotation_ne_none hknown)
      | some a => rfl
    | false =>
      rw [Decorator.annotation_of_not_isKnown hknown] at hannotation
      cases hannotation
      rfl

/-- A field of a primitive kind has no other events than its own. -/
lemma events_expand_of_primitive {kind : FieldKind} (hb : field.type.base = .primitive kind)
    (h : (field.expand reference).outcome = .ok result) :
    (field.expand reference).events = field.warnings := by
  unfold expand at h ⊢
  simp only [hb, pure_bind, Traced.outcome_bind] at h ⊢
  obtain ⟨schema, hschema, -⟩ := Outcome.bind_eq_ok.1 h
  rw [Traced.events_bind hschema, events_annotate hschema]
  exact List.append_nil _

/-- A field that refers to a model has the events of the reference, and then its own. -/
lemma events_expand_of_model {name : String} {members : Schema} (hb : field.type.base = .model name)
    (hmembers : (reference name).outcome = .ok members)
    (h : (field.expand reference).outcome = .ok result) :
    (field.expand reference).events = (reference name).events ++ field.warnings := by
  have hbase : (FieldSchema.ofObject <$> reference name).outcome = .ok (.ofObject members) := by
    rw [Traced.outcome_map, hmembers]
    rfl
  unfold expand at h ⊢
  simp only [hb, Traced.outcome_bind, hbase, Outcome.ok_bind] at h ⊢
  obtain ⟨schema, hschema, -⟩ := Outcome.bind_eq_ok.1 h
  rw [Traced.events_bind hbase, Traced.events_map, Traced.events_bind hschema,
    events_annotate hschema]
  congr 1
  exact List.append_nil _

end Field

namespace Catalog

variable {catalog : Catalog} {path : List String} {model : Model}

/-- A field that is expanded occurs, if what it refers to is expanded to a tree. -/
lemma exists_occurrence (h : catalog.IsPath path model) {field : Field} (hf : field ∈ model.fields)
    (below : ∀ name next members, field.type.base = .model name → name ∉ path →
      catalog.model? name = some next →
      (catalog.expandFrom (path ++ [name]) next).outcome = .ok members →
        ∃ occurrences, catalog.Expands next.fields occurrences ∧
          Occurrence.schema occurrences = members ∧
          (catalog.expandFrom (path ++ [name]) next).events =
            .expanding next.name (path.length + 1) ::
              Occurrence.membersLog (path.length + 1) occurrences)
    {description : FieldSchema}
    (hs : (field.expand (catalog.reference path field)).outcome = .ok description) :
    ∃ occurrence, occurrence.field = field ∧ occurrence.description = description ∧
      (field.expand (catalog.reference path field)).events = occurrence.log path.length ∧
      ∀ fields occurrences, catalog.Expands fields occurrences →
        catalog.Expands (field :: fields) (occurrence :: occurrences) := by
  have hmember : catalog.member path field = .ok description := by rwa [Field.expand_outcome] at hs
  cases hb : field.type.base with
  | primitive kind =>
    rw [member_of_primitive hb] at hmember
    refine ⟨.value field description, rfl, rfl, ?_, fun fields occurrences hrest =>
      .value hb hmember hrest⟩
    exact Field.events_expand_of_primitive hb hs
  | model name =>
    obtain ⟨next, members, hn, hnext, hmembers, hsettle⟩ := exists_of_member h hf hb hmember
    obtain ⟨inner, hinner, rfl, hlog⟩ := below name next members hb hn hnext hmembers
    have hreference : catalog.reference path field name =
      catalog.expandFrom (path ++ [name]) next :=
      reference_of_not_mem hn hnext
    obtain ⟨hdeclared, rfl⟩ := model?_eq_some.1 hnext
    refine ⟨.reference field description next inner, rfl, rfl, ?_,
      fun fields occurrences hrest => .reference hb hdeclared hinner hsettle hrest⟩
    rw [Field.events_expand_of_model hb (hreference ▸ hmembers) hs, hreference, hlog]
    rfl

/-- **An expansion that succeeds is a tree.** It yields the schema of the tree, and its events are
those of the tree.

**Proof sketch.** Induction over paths, and in a step over the fields of the model. A field that
refers to a model is settled on the result of an expansion at the end of a longer path, which is the
tree below the field. -/
theorem exists_expands (h : catalog.IsPath path model) {schema : Schema}
    (hs : (catalog.expandFrom path model).outcome = .ok schema) :
    ∃ occurrences, catalog.Expands model.fields occurrences ∧
      Occurrence.schema occurrences = schema ∧
      (catalog.expandFrom path model).events =
        .expanding model.name path.length :: Occurrence.membersLog path.length occurrences := by
  induction h using IsPath.induction generalizing schema with
  | step path model h ih =>
    let one (field : Field) : Traced (String × FieldSchema) := do
      return (field.name, ← field.expand (catalog.reference path field))
    have all : ∀ fields ⊆ model.fields, ∀ entries, (fields.mapM one).outcome = .ok entries →
        ∃ occurrences, catalog.Expands fields occurrences ∧
          Occurrence.schema occurrences = entries ∧
          (fields.mapM one).events = Occurrence.membersLog path.length occurrences := by
      intro fields hsub
      induction fields with
      | nil =>
        rintro entries ⟨⟩
        exact ⟨[], .nil, rfl, List.mapM_nil (m := Traced) ▸ rfl⟩
      | cons field fields ihfields =>
        intro entries hentries
        obtain ⟨hf, hsub⟩ := List.cons_subset.1 hsub
        rw [List.mapM_cons, Traced.outcome_bind] at hentries
        obtain ⟨entry, hentry, hentries⟩ := Outcome.bind_eq_ok.1 hentries
        rw [Traced.outcome_bind] at hentries
        obtain ⟨others, hothers, ⟨⟩⟩ := Outcome.bind_eq_ok.1 hentries
        obtain ⟨occurrences, hoccurrences, rfl, hevents⟩ := ihfields hsub others hothers
        have hone : one field = (field.name, ·) <$> field.expand (catalog.reference path field) :=
          bind_pure_comp _ _
        have hpair := hentry
        rw [hone, Traced.outcome_map] at hpair
        obtain ⟨description, hdescription, rfl⟩ := Outcome.map_eq_ok.1 hpair
        obtain ⟨occurrence, rfl, rfl, hlog, hcons⟩ := exists_occurrence h hf
          (fun name next members hb hn hnext hmembers => by
            simpa using ih field hf name next hb hn hnext (h.snoc hf hb hn hnext) hmembers)
              hdescription
        refine ⟨occurrence :: occurrences, hcons _ _ hoccurrences, rfl, ?_⟩
        rw [List.mapM_cons, Traced.events_bind hentry, Traced.events_bind hothers, hevents, hone,
          Traced.events_map, hlog, Traced.events_pure, List.append_nil]
        rfl
    rw [expandFrom_eq, Model.expandFields] at hs ⊢
    rw [Traced.outcome_bind, Traced.outcome_log, pure_bind] at hs
    obtain ⟨occurrences, hoccurrences, hschema, hevents⟩ :=
      all model.fields (List.Subset.refl _) schema hs
    refine ⟨occurrences, hoccurrences, hschema, ?_⟩
    rw [Traced.events_bind rfl]
    exact congrArg (Event.expanding model.name path.length :: ·) hevents

end Catalog

/-! ## Where fields occur -/

namespace Catalog

variable {catalog : Catalog} {fields : List Field} {occurrences : List Occurrence}

/-- A field is declared where a route leads that starts with one of the given fields. -/
def Leads (catalog : Catalog) : List Field → List Field → Field → Prop
  | fields, [], field => field ∈ fields
  | fields, first :: route, field => first ∈ fields ∧ ∃ next : Model,
      (∃ name, first.type.base = .model name ∧ catalog.model? name = some next) ∧
      catalog.Leads next.fields route field

/-- A route leads from fields when it leads from the first one or from the others. -/
lemma leads_cons {first : Field} {route : List Field} {field : Field} :
    catalog.Leads (first :: fields) route field ↔
      catalog.Leads [first] route field ∨ catalog.Leads fields route field := by
  cases route with
  | nil => simp [Leads]
  | cons second route => simp [Leads, or_and_right]

/-- What a route from a model leads to is declared in the model at its end. -/
lemma leads_fields_iff {model : Model} {route : List Field} {field : Field} :
    catalog.Leads model.fields route field ↔
      ∃ target, catalog.Route model route target ∧ field ∈ target.fields := by
  induction route generalizing model with
  | nil =>
    constructor
    · exact fun h => ⟨model, .nil model, h⟩
    · rintro ⟨target, ⟨⟩, h⟩
      exact h
  | cons first route ih =>
    constructor
    · rintro ⟨hfirst, next, ⟨name, hb, hnext⟩, hrest⟩
      obtain ⟨target, hroute, h⟩ := ih.1 hrest
      exact ⟨target, .cons hfirst hb hnext hroute, h⟩
    · rintro ⟨target, _ | ⟨hfirst, hb, hnext, hroute⟩, h⟩
      exact ⟨hfirst, _, ⟨_, hb, hnext⟩, ih.2 ⟨target, hroute, h⟩⟩

namespace Expands

/-- Fields occur exactly where routes from them lead.

**Proof sketch.** Induction on the occurrences. A place is that of the first field, one below it, or
one of the other fields, and so is what a route leads to. -/
lemma exists_mem_places_iff_leads (h : catalog.Expands fields occurrences) {route : List Field}
    {field : Field} :
    (∃ description, ⟨route, field, description⟩ ∈ Occurrence.membersPlaces occurrences) ↔
      catalog.Leads fields route field := by
  induction h generalizing route field with
  | nil => cases route <;> simp [Occurrence.membersPlaces, Leads]
  | @value first fields kind description occurrences base settled _ ih =>
    rw [leads_cons, ← ih, Occurrence.membersPlaces, Occurrence.places]
    cases route with
    | nil => simp [Leads, exists_or]
    | cons second route =>
      have hprimitive : ¬ catalog.Leads [first] (second :: route) field := by
        rintro ⟨hsecond, -, ⟨name, hb, -⟩, -⟩
        rw [List.mem_singleton.1 hsecond, base] at hb
        cases hb
      simp [hprimitive]
  | @reference first fields model description members occurrences base declared _ settled _ ihinside
    ih =>
    rw [leads_cons, ← ih, Occurrence.membersPlaces, Occurrence.places]
    have hmodel : catalog.model? model.name = some model := model?_eq_some.2 ⟨declared, rfl⟩
    simp only [List.mem_append, List.mem_cons, List.mem_map, exists_or]
    refine or_congr ?_ Iff.rfl
    cases route with
    | nil => simp [Leads, Place.under]
    | cons second route =>
      constructor
      · rintro (⟨_, ⟨⟩⟩ | ⟨_, ⟨route', field', description'⟩, hplace, ⟨⟩⟩)
        exact ⟨List.mem_singleton_self _, model, ⟨model.name, base, hmodel⟩,
          ihinside.1 ⟨description', hplace⟩⟩
      · rintro ⟨hsecond, next, ⟨name, hb, hnext⟩, hrest⟩
        obtain rfl := List.mem_singleton.1 hsecond
        rw [base] at hb
        cases hb
        rw [hmodel] at hnext
        cases hnext
        obtain ⟨description', hplace⟩ := ihinside.2 hrest
        exact .inr ⟨description', ⟨route, field, description'⟩, hplace, rfl⟩

/-- In the expansion of a model, a field occurs at the end of every route that leads to where it is
declared, and nowhere else. -/
theorem exists_mem_places_iff {model : Model} (h : catalog.Expands model.fields occurrences)
    {route : List Field} {field : Field} :
    (∃ description, ⟨route, field, description⟩ ∈ Occurrence.membersPlaces occurrences) ↔
      ∃ target, catalog.Route model route target ∧ field ∈ target.fields := by
  rw [h.exists_mem_places_iff_leads, leads_fields_iff]

/-- The way to a place starts with the name of one of the expanded fields. -/
lemma exists_names_eq_cons (h : catalog.Expands fields occurrences) {place : Place}
    (hplace : place ∈ Occurrence.membersPlaces occurrences) :
    ∃ field ∈ fields, ∃ names, place.names = field.name :: names := by
  obtain ⟨route, field, description⟩ := place
  have hleads := h.exists_mem_places_iff_leads.1 ⟨description, hplace⟩
  cases route with
  | nil => exact ⟨field, hleads, [], rfl⟩
  | cons first route => exact ⟨first, hleads.1, route.map Field.name ++ [field.name], rfl⟩

/-- The names on the way to the places of an expanded model are distinct when those of its first
field are, those of the others are, and the name of the first one is none of theirs. -/
lemma nodup_names_cons (rest : catalog.Expands fields occurrences) {occurrence : Occurrence}
    (hname : occurrence.field.name ∉ fields.map Field.name)
    (hfirst : (occurrence.places.map Place.names).Nodup)
    (hrest : ((Occurrence.membersPlaces occurrences).map Place.names).Nodup) :
    ((Occurrence.membersPlaces (occurrence :: occurrences)).map Place.names).Nodup := by
  rw [Occurrence.membersPlaces, List.map_append]
  refine hfirst.append hrest fun names hnames hnames' => hname ?_
  obtain ⟨place, hplace, rfl⟩ := List.mem_map.1 hnames
  obtain ⟨place', hplace', heq⟩ := List.mem_map.1 hnames'
  obtain ⟨others, hothers⟩ := Occurrence.exists_names_eq_cons hplace
  obtain ⟨field, hf, others', hothers'⟩ := rest.exists_names_eq_cons hplace'
  rw [hothers, hothers', List.cons.injEq] at heq
  exact List.mem_map.2 ⟨field, hf, heq.1⟩

/-- No two places have the same names on the way.

**Proof sketch.** Induction on the occurrences. Places of different fields differ in the first name,
since the names of the fields of a model are distinct. The name of a field alone is shorter than the
names on the way to a place below. -/
theorem nodup_names (h : catalog.Expands fields occurrences)
    (hnodup : (fields.map Field.name).Nodup) :
    ((Occurrence.membersPlaces occurrences).map Place.names).Nodup := by
  induction h with
  | nil => exact List.nodup_nil
  | value base settled rest ih =>
    obtain ⟨hname, hnodup⟩ := List.nodup_cons.1 hnodup
    exact rest.nodup_names_cons hname (List.nodup_singleton _) (ih hnodup)
  | @reference first fields model description members occurrences base declared inside settled rest
    ihinside ih =>
    obtain ⟨hname, hnodup⟩ := List.nodup_cons.1 hnodup
    refine rest.nodup_names_cons hname ?_ (ih hnodup)
    have hbelow : (((Occurrence.membersPlaces members).map (Place.under first)).map Place.names) =
        ((Occurrence.membersPlaces members).map Place.names).map (first.name :: ·) := by
      simp
    rw [Occurrence.places, List.map_cons, List.nodup_cons, hbelow]
    constructor
    · intro hmem
      obtain ⟨names, hnames, heq⟩ := List.mem_map.1 hmem
      obtain ⟨place, -, rfl⟩ := List.mem_map.1 hnames
      simp [Place.names] at heq
    · exact (ihinside (catalog.wellDeclared.fieldNames model declared)).map (List.cons_injective)

end Expands

end Catalog

/-! ## Trees of compilations -/

namespace Compilation

/-- The tree that a compilation expands its root to, the schema of which it yields. -/
structure HasTree (compilation : Compilation) (catalog : Catalog) (root : Model)
    (occurrences : List Occurrence) :
    Prop where
  models : catalog.models = compilation.models
  declared : root ∈ catalog.models
  named : root.name = compilation.root
  expands : catalog.Expands root.fields occurrences
  schema : Occurrence.schema occurrences = compilation.schema

/-- A compilation that succeeds expands a root to a tree, and its events are those of its stages and
of the tree. -/
theorem exists_hasTree {text : String} {options : CompileOptions} {compilation : Compilation}
    (h : compile text options = .ok compilation) :
    ∃ tokens catalog root occurrences, Token.ofText text = .ok tokens ∧
      compilation.HasTree catalog root occurrences ∧ options.root.Picks compilation.models root ∧
      (trace text options).events =
        [.tokenized tokens.length, .parsed compilation.models.length,
          .resolving root.name compilation.models.length, .expanding root.name 1] ++
        Occurrence.membersLog 1 occurrences := by
  unfold compile trace at h
  unfold trace
  obtain ⟨tokens, htokens, h⟩ := Outcome.bind_eq_ok.1 (Traced.outcome_bind _ _ ▸ h)
  rw [Traced.outcome_bind, Traced.outcome_log, pure_bind] at h
  obtain ⟨models, hmodels, h⟩ := Outcome.bind_eq_ok.1 (Traced.outcome_bind _ _ ▸ h)
  rw [Traced.outcome_bind, Traced.outcome_log, pure_bind] at h
  obtain ⟨result, hresult, h⟩ := Outcome.bind_eq_ok.1 (Traced.outcome_bind _ _ ▸ h)
  cases h
  rw [Traced.events_bind htokens, Traced.events_bind rfl, Traced.events_bind hmodels,
    Traced.events_bind rfl, Traced.events_bind hresult]
  unfold resolveRoot at hresult ⊢
  obtain ⟨catalog, hcatalog, hresult⟩ := Outcome.bind_eq_ok.1 (Traced.outcome_bind _ _ ▸ hresult)
  obtain ⟨root, hroot, hresult⟩ := Outcome.bind_eq_ok.1 (Traced.outcome_bind _ _ ▸ hresult)
  rw [Traced.outcome_bind, Traced.outcome_log, pure_bind] at hresult
  obtain ⟨schema, hschema, hresult⟩ := Outcome.bind_eq_ok.1 (Traced.outcome_bind _ _ ▸ hresult)
  cases hresult
  have hmodels' : catalog.models = models := (Catalog.ofModels_eq_ok.1 hcatalog).2
  have hpicks := Catalog.root_eq_ok.1 hroot
  obtain ⟨occurrences, hexpands, hs, hevents⟩ :=
    Catalog.exists_expands (Catalog.IsPath.single hpicks.mem) (Catalog.resolve_eq _ _ ▸ hschema)
  refine ⟨tokens, catalog, root, occurrences, htokens, ⟨hmodels', hpicks.mem, rfl, hexpands, hs⟩,
    hmodels' ▸ hpicks, ?_⟩
  rw [Traced.events_bind hcatalog, Traced.events_bind hroot, Traced.events_bind rfl,
    Traced.events_bind hschema, Catalog.resolve_eq, hevents]
  simp [Traced.lift, Traced.log]

end Compilation

end ModelSchema
