import ModelSchema.Proofs.Depth
import ModelSchema.Proofs.Validity

set_option autoImplicit false

/-!
# Cycles

An expansion that fails with recursive nesting shows a cycle of the graph of references, and it does
so whenever a cycle is reached and nothing else is wrong.

## Main definitions

* `Catalog.IsCycleReport` — what a report of recursive nesting says about the declared models.

## Main results

* `Catalog.expandFrom_error_cases` — an expansion fails with a cycle or with an unsound field.
* `Catalog.resolve_detects_cycles` — expansion comes to an end, and it detects cycles.
-/

namespace ModelSchema

namespace Catalog

variable {catalog : Catalog} {path : List String} {model : Model} {root : String}

/-- A report of recursive nesting shows a cycle that is reached from the root: its first and its
last name are the same, the others are distinct, each name refers to the next one, and the position
is that of a field of the last model but one that refers to the last one. -/
structure IsCycleReport (catalog : Catalog) (root : String) (report : List String)
    (position : Position) : Prop where
  two_le_length : 2 ≤ report.length
  closed : report.head? = report.getLast?
  distinct : report.dropLast.Nodup
  linked : report.IsChain (Model.Refers catalog.models)
  reached : ∀ first ∈ report.head?, Model.Reaches catalog.models root first
  closing : ∃ model ∈ catalog.models, ∃ field ∈ model.fields, ∃ last,
    report.dropLast.getLast? = some model.name ∧ report.getLast? = some last ∧
      field.type.base = .model last ∧ field.position = position

/-- A cycle that is reported is there. -/
lemma IsCycleReport.exists_onCycle {report : List String} {position : Position}
    (h : catalog.IsCycleReport root report position) :
    ∃ name, Model.Reaches catalog.models root name ∧ Model.OnCycle catalog.models name := by
  obtain ⟨hlength, hclosed, -, hlinked, hreached, -⟩ := h
  obtain ⟨first, second, rest, rfl⟩ : ∃ first second rest, report = first :: second :: rest := by
    match report, hlength with
    | first :: second :: rest, _ => exact ⟨first, second, rest, rfl⟩
  refine ⟨first, hreached first rfl, ?_⟩
  rw [List.isChain_cons_cons] at hlinked
  refine Relation.TransGen.head' hlinked.1 ?_
  refine List.relationReflTransGen_of_exists_isChain_cons rest hlinked.2 ?_
  rw [List.getLast?_cons_cons, List.getLast?_eq_some_getLast (List.cons_ne_nil _ _)] at hclosed
  exact (Option.some.inj hclosed).symm

/-- The part of a path from a model that a field at its end refers to, with that model once more. -/
lemma isCycleReport_of_mem {field : Field} {name : String} (h : catalog.IsPath path model)
    (hreached : ∀ x ∈ path, Model.Reaches catalog.models root x) (hf : field ∈ model.fields)
    (hb : field.type.base = .model name) (hn : name ∈ path) :
    catalog.IsCycleReport root (path.dropWhile (· != name) ++ [name]) field.position := by
  obtain ⟨before, after, hpath, hbefore⟩ := List.eq_append_cons_of_mem hn
  have hdrop : path.dropWhile (· != name) = name :: after := by
    rw [hpath, List.dropWhile_append_of_pos]
    · simp
    · intro x hx
      simpa using fun e : x = name => hbefore (e ▸ hx)
  rw [hdrop]
  -- what is left of the path is a suffix, which keeps its names distinct and its links
  have hsuffix : name :: after <:+ path := ⟨before, hpath.symm⟩
  have hlast : (name :: after).getLast? = some model.name := by
    rw [← h.last, hpath, List.getLast?_append_cons]
  constructor
  · simp
  · rw [List.getLast?_concat]
    rfl
  · rw [List.dropLast_concat]
    exact h.distinct.sublist hsuffix.sublist
  · rw [List.isChain_append]
    refine ⟨h.linked.suffix hsuffix, .singleton _, fun x hx y hy => ?_⟩
    rw [hlast, Option.mem_some_iff] at hx
    obtain rfl : name = y := by simpa using hy
    exact ⟨model, h.mem, hx, field, hf, hb⟩
  · intro first hfirst
    obtain rfl : name = first := by simpa using hfirst
    exact hreached name hn
  · refine ⟨model, h.mem, field, hf, name, ?_, List.getLast?_concat, hb, rfl⟩
    rw [List.dropLast_concat, hlast]

/-- An expansion fails with a cycle that is reached from the root, or with a field that is reached
and not sound.

**Proof sketch.** Induction over paths, one step of a failing expansion at a time. -/
theorem expandFrom_error_cases (h : catalog.IsPath path model)
    (hreached : ∀ x ∈ path, Model.Reaches catalog.models root x) {e : CompileError}
    (he : (catalog.expandFrom path model).outcome = .error e) :
    (∃ report position, e = .recursiveNesting report position ∧
      catalog.IsCycleReport root report position) ∨
    ∃ target ∈ catalog.models, Model.Reaches catalog.models root target.name ∧
      ∃ field ∈ target.fields, ¬ field.IsSound ∧ ∃ base, field.settle base = .error e := by
  induction h using IsPath.induction with
  | step path model h ih =>
    have hmodel := hreached model.name h.name_mem
    obtain ⟨field, hf, hunsound | ⟨name, hn, hb, rfl⟩ | ⟨name, next, hb, hn, hnext, he⟩⟩ :=
      expandFrom_error h he
    · exact .inr ⟨model, h.mem, hmodel, field, hf, hunsound⟩
    · exact .inl ⟨_, _, rfl, isCycleReport_of_mem h hreached hf hb hn⟩
    · refine ih field hf name next hb hn hnext (h.snoc hf hb hn hnext) (fun x hx => ?_) he
      rcases List.mem_append.1 hx with hx | hx
      · exact hreached x hx
      · rw [List.mem_singleton.1 hx]
        exact hmodel.tail ⟨model, h.mem, rfl, field, hf, hb⟩

/-- Settling a field never fails with recursive nesting. -/
lemma settle_ne_recursiveNesting {field : Field} {base : FieldSchema} {report : List String}
    {position : Position} : field.settle base ≠ .error (.recursiveNesting report position) := by
  intro h
  rcases Field.settle_error h with ⟨d, -, -, rule, h⟩ | ⟨lo, hi, -, h⟩ <;> cases h

/-- **Expansion comes to an end and detects cycles.** For a model of a catalog:

* the recursion on the path is never cut off at the number of declared models, whatever would come
  after;
* no event tells of more models in expansion, and no schema has more objects inside each other;
* a report of recursive nesting shows a cycle, and there is none without a cycle;
* a cycle that is reached is reported when no field that is reached is unsound.

**Proof sketch.** The first two parts are bounds on paths. An expansion that fails does so with a
cycle or with an unsound field, and one that reaches a cycle fails. -/
theorem resolve_detects_cycles (catalog : Catalog) (root : Model) (hroot : root ∈ catalog.models) :
    (∀ beyond, catalog.expandWithin beyond catalog.models.length [root.name] root =
      catalog.resolve root) ∧
    (∀ name depth, .expanding name depth ∈ (catalog.resolve root).events →
      depth ≤ catalog.models.length) ∧
    (∀ schema, (catalog.resolve root).outcome = .ok schema →
      schema.nesting ≤ catalog.models.length) ∧
    (∀ report position, (catalog.resolve root).outcome =
      .error (.recursiveNesting report position) →
      catalog.IsCycleReport root.name report position) ∧
    ((∀ name, Model.Reaches catalog.models root.name name → ¬ Model.OnCycle catalog.models name) →
      ∀ report position, (catalog.resolve root).outcome ≠
        .error (.recursiveNesting report position)) ∧
    ((∃ name, Model.Reaches catalog.models root.name name ∧ Model.OnCycle catalog.models name) →
      (∀ target ∈ catalog.models, Model.Reaches catalog.models root.name target.name →
        ∀ field ∈ target.fields, field.IsSound) →
      ∃ report position, (catalog.resolve root).outcome =
        .error (.recursiveNesting report position)) := by
  have h := IsPath.single hroot
  have hreached : ∀ x ∈ [root.name], Model.Reaches catalog.models root.name x := by
    intro x hx
    rw [List.mem_singleton.1 hx]
  have shown : ∀ report position,
      (catalog.resolve root).outcome = .error (.recursiveNesting report position) →
        catalog.IsCycleReport root.name report position := by
    intro report position he
    rw [resolve_eq] at he
    rcases expandFrom_error_cases h hreached he with ⟨_, _, ⟨⟩, hreport⟩ |
      ⟨_, _, _, _, _, _, _, hsettle⟩
    · exact hreport
    · exact absurd hsettle settle_ne_recursiveNesting
  refine ⟨fun beyond => ?_, fun name depth he => ?_, fun schema hs => ?_, shown,
    fun hacyclic report position he => ?_, fun hcycle hsound => ?_⟩
  · rw [resolve_eq]
    exact expandWithin_eq beyond h.declared h.distinct (Nat.lt_succ_self _)
  · rw [resolve_eq] at he
    exact depth_le h he
  · rw [resolve_eq] at hs
    have := nesting_le h hs
    rwa [List.length_singleton, Nat.add_le_add_iff_right] at this
  · obtain ⟨name, hr, hc⟩ := (shown report position he).exists_onCycle
    exact hacyclic name hr hc
  · rw [resolve_eq]
    obtain ⟨name, hr, hc⟩ := hcycle
    cases hs : (catalog.expandFrom [root.name] root).outcome with
    | ok schema => exact absurd hc (not_onCycle_of_expandFrom h ⟨schema, hs⟩ hr)
    | error e =>
      rcases expandFrom_error_cases h hreached hs with
        ⟨report, position, rfl, -⟩ | ⟨target, ht, hr, field, hf, hunsound, -⟩
      · exact ⟨report, position, rfl⟩
      · exact absurd (hsound target ht hr field hf) hunsound

/-! ### A cycle that does not go through the root -/

namespace Shop

/-- An order of an item. -/
def order : Model :=
  ⟨"Order", ⟨1, 7⟩, [⟨"item", ⟨1, 15⟩, { base := .model "Item" }, [], false⟩]⟩

/-- An item, which may be a bundle. -/
def item : Model :=
  ⟨"Item", ⟨2, 7⟩, [⟨"bundle", ⟨2, 14⟩, { base := .model "Bundle" }, [], true⟩]⟩

/-- A bundle of items. -/
def bundle : Model :=
  ⟨"Bundle", ⟨3, 7⟩, [⟨"items", ⟨3, 16⟩, { base := .model "Item", isArray := true }, [], false⟩]⟩

/-- The catalog of orders, items and bundles. -/
def declarations : Catalog :=
  ⟨[order, item, bundle], by decide⟩

end Shop

/-- What is wrong with orders is that bundles hold items, which is reported where they do. -/
theorem resolve_detects_cycles_order :
    Shop.order ∈ Shop.declarations.models ∧
      Shop.declarations.IsCycleReport "Order" ["Item", "Bundle", "Item"] ⟨3, 16⟩ := by
  have horder : Shop.order ∈ Shop.declarations.models := List.mem_cons_self
  have hresolve : (Shop.declarations.resolve Shop.order).outcome =
      .error (.recursiveNesting ["Item", "Bundle", "Item"] ⟨3, 16⟩) := by decide +kernel
  obtain ⟨-, -, -, shown, -, -⟩ := resolve_detects_cycles _ _ horder
  exact ⟨horder, shown _ _ hresolve⟩

end Catalog

end ModelSchema
