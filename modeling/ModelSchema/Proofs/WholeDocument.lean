import Mathlib.Data.List.Forall2
import ModelSchema.Outputs
import ModelSchema.Proofs.Validity

set_option autoImplicit false

/-!
# Whole documents

All models of a document are resolved together, or one of them is compiled as the root. The two
agree: what is resolved together is what each model is compiled to, and it fails as the first model
does that cannot be compiled.

## Main results

* `compile_of_picks` — in a catalog, a compilation is the expansion of its root.
* `compile_of_offence` — what is wrong with the declarations is wrong for every root.
* `resolveModels_eq_mapM_compile` — resolving all models is compiling each of them.
* `declarationsText_agrees_with_roots` — the declarations of a document are those of its roots.
-/

namespace ModelSchema

/-! ## Compiling one model -/

section Roots

variable {text : String} {models : List Model} {e : CompileError}

/-- In a catalog, a compilation is the expansion of the model that is picked. -/
lemma compile_of_picks {catalog : Catalog} {selection : RootSelection} {root : Model}
    (h : Model.ofText text = .ok catalog.models) (hroot : selection.Picks catalog.models root) :
    compile text { root := selection } =
      (fun schema => ⟨root.name, catalog.models, schema⟩) <$> (catalog.resolve root).outcome := by
  have hcatalog : Catalog.ofModels catalog.models = .ok catalog :=
    Catalog.ofModels_eq_ok.2 ⟨catalog.wellDeclared, rfl⟩
  have hpicked : catalog.root selection = .ok root := Catalog.root_eq_ok.2 hroot
  rw [compile_eq, h, Outcome.ok_bind, resolveRoot_outcome, hcatalog, Outcome.ok_bind, hpicked,
    Outcome.ok_bind]
  cases (catalog.resolve root).outcome <;> rfl

/-- What is wrong with the declarations is wrong whatever the root is. -/
lemma compile_of_offence (h : Model.ofText text = .ok models)
    (he : Catalog.ofModels models = .error e) (options : CompileOptions) :
    compile text options = .error e := by
  rw [compile_eq, h, Outcome.ok_bind, resolveRoot_outcome, he, Outcome.error_bind,
    Outcome.error_bind]

/-- What a model is compiled to has the name of that model, and the models of the document. -/
lemma eq_of_compile_named {model : Model} {compilation : Compilation}
    (h : Model.ofText text = .ok models) (hm : model ∈ models)
    (hc : compile text { root := .named model.name } = .ok compilation) :
    compilation = ⟨model.name, models, compilation.schema⟩ := by
  obtain ⟨hmodels, catalog, hcatalog, -⟩ := exists_of_compile hc
  obtain rfl : models = compilation.models := Except.ok.inj (h.symm.trans hmodels)
  rw [← hcatalog] at hm hmodels ⊢
  rw [compile_of_picks hmodels (RootSelection.picks_named hm)] at hc
  obtain ⟨schema, -, rfl⟩ := Outcome.map_eq_ok.1 hc
  rfl

/-! ## Resolving all models -/

/-- Resolving all models is compiling each of them.

**Proof sketch.** In a catalog each compilation is the expansion of its model. Models that make no
catalog fail together, and so does the first compilation; there is a first one, as nothing is wrong
with no models. -/
theorem resolveModels_eq_mapM_compile (h : Model.ofText text = .ok models) :
    resolveModels models =
      models.mapM fun model => (fun compilation => (model.name, compilation.schema)) <$> compile
        text { root := .named model.name } := by
  cases hcatalog : Catalog.ofModels models with
  | ok catalog =>
    obtain ⟨-, rfl⟩ := Catalog.ofModels_eq_ok.1 hcatalog
    rw [resolveModels, hcatalog, Outcome.ok_bind, Catalog.resolveAll, Traced.outcome_mapM]
    refine Outcome.mapM_congr fun model hm => ?_
    rw [compile_of_picks h (RootSelection.picks_named hm), Traced.outcome_bind]
    cases (catalog.resolve model).outcome <;> rfl
  | error e =>
    rw [resolveModels, hcatalog, Outcome.error_bind]
    cases models with
    | nil => cases hcatalog
    | cons model models =>
      rw [List.mapM_cons, compile_of_offence h hcatalog]
      rfl

/-- The last model is compiled when no other is named. -/
lemma compile_last_eq_named {last : Model} (h : Model.ofText text = .ok models)
    (hlast : models.getLast? = some last) :
    compile text { root := .last } = compile text { root := .named last.name } := by
  cases hcatalog : Catalog.ofModels models with
  | ok catalog =>
    obtain ⟨-, rfl⟩ := Catalog.ofModels_eq_ok.1 hcatalog
    have hpicked : RootSelection.Picks catalog.models last .last := hlast
    rw [compile_of_picks h hpicked, compile_of_picks h (RootSelection.picks_named hpicked.mem)]
  | error e => rw [compile_of_offence h hcatalog, compile_of_offence h hcatalog]

end Roots

/-! ## Declarations -/

/-- **The declarations of a document are those of its roots.** For a text that declares models, and
in every style:

* there are declarations exactly when every model can be compiled as the root;
* they are then those of the models in order, each with the schema that it is compiled to, and with
  blank lines between them;
* otherwise the error is that of the first model that cannot be compiled;
* the last model is compiled when no other is named.

**Proof sketch.** Resolving all models is compiling each of them, and a computation on the elements
of a list succeeds when it does on each of them, and otherwise fails with the first one that does
not. -/
theorem declarationsText_agrees_with_roots (text : String) (models : List Model)
    (h : Model.ofText text = .ok models) (style : TypeScript.Style) :
    ((∃ out, declarationsText text style = .ok out) ↔
      ∀ model ∈ models, ∃ compilation,
        compile text { root := .named model.name } = .ok compilation) ∧
    (∀ out, declarationsText text style = .ok out → ∃ schemas, resolveModels models = .ok schemas ∧
      List.Forall₂
        (fun model entry => entry.1 = model.name ∧
          compile text { root := .named model.name } = .ok ⟨model.name, models, entry.2⟩)
        models schemas ∧
      out = "\n\n".intercalate
        (schemas.map fun entry => Schema.declaration {} style entry.1 entry.2)) ∧
    (∀ e, declarationsText text style = .error e →
      ∃ before model after, models = before ++ model :: after ∧
      (∀ earlier ∈ before, ∃ compilation,
        compile text { root := .named earlier.name } = .ok compilation) ∧
      compile text { root := .named model.name } = .error e) ∧
    ∀ last, models.getLast? = some last →
      compile text { root := .last } = compile text { root := .named last.name } := by
  have hresolve := resolveModels_eq_mapM_compile h
  have hprint : declarationsText text style =
      TypeScript.declarations style <$> resolveModels models := by
    rw [declarationsText, h, Outcome.ok_bind]
    cases resolveModels models <;> rfl
  refine ⟨?_, fun out hout => ?_, fun e he => ?_, fun last hlast => compile_last_eq_named h hlast⟩
  · calc
      (∃ out, declarationsText text style = .ok out)
      _ ↔ ∃ schemas, resolveModels models = .ok schemas := by
        rw [hprint]
        exact Outcome.exists_map_eq_ok
      _ ↔ ∀ model ∈ models, ∃ compilation,
          compile text { root := .named model.name } = .ok compilation := by
        rw [hresolve, Outcome.exists_mapM_eq_ok]
        exact forall₂_congr fun _ _ => Outcome.exists_map_eq_ok
  · rw [hprint] at hout
    obtain ⟨schemas, hschemas, rfl⟩ := Outcome.map_eq_ok.1 hout
    refine ⟨schemas, hschemas, ?_, rfl⟩
    rw [hresolve, Outcome.mapM_eq_ok] at hschemas
    refine (Outcome.forall₂_mem hschemas).imp fun model entry ⟨hm, hentry⟩ => ?_
    obtain ⟨compilation, hc, rfl⟩ := Outcome.map_eq_ok.1 hentry
    exact ⟨rfl, hc.trans (congrArg _ (eq_of_compile_named h hm hc))⟩
  · rw [hprint, Outcome.map_eq_error, hresolve] at he
    obtain ⟨before, model, after, hmodels, hbefore, he⟩ := Outcome.exists_of_mapM_eq_error he
    exact ⟨before, model, after, hmodels, fun earlier hm =>
      Outcome.exists_map_eq_ok.1 (hbefore earlier hm), Outcome.map_eq_error.1 he⟩

/-- A document of which the first model can be compiled, and the others hold each other. -/
def mutualText : String :=
  "model A \x7b n: number; \x7d\nmodel B \x7b c: C; \x7d\nmodel C \x7b b: B; a: A; \x7d"

/-- The models of that document. -/
def mutualModels : List Model :=
  [⟨"A", ⟨1, 7⟩, [⟨"n", ⟨1, 11⟩, { base := .primitive .number }, [], false⟩]⟩,
    ⟨"B", ⟨2, 7⟩, [⟨"c", ⟨2, 11⟩, { base := .model "C" }, [], false⟩]⟩,
    ⟨"C", ⟨3, 7⟩, [⟨"b", ⟨3, 11⟩, { base := .model "B" }, [], false⟩,
      ⟨"a", ⟨3, 17⟩, { base := .model "A" }, [], false⟩]⟩]

/-- There are no declarations of that document, and the error is that of the second model. The third
one, which is the last, has another error. -/
theorem declarationsText_agrees_with_roots_mutual :
    Model.ofText mutualText = .ok mutualModels ∧
    declarationsText mutualText .interface = .error (.recursiveNesting ["B", "C", "B"] ⟨3, 11⟩) ∧
    (∃ before model after, mutualModels = before ++ model :: after ∧
      (∀ earlier ∈ before, ∃ compilation,
        compile mutualText { root := .named earlier.name } = .ok compilation) ∧
      compile mutualText { root := .named model.name } =
        .error (.recursiveNesting ["B", "C", "B"] ⟨3, 11⟩)) ∧
    compile mutualText { root := .last } = compile mutualText { root := .named "C" } ∧
    compile mutualText { root := .named "C" } =
      .error (.recursiveNesting ["C", "B", "C"] ⟨2, 11⟩) := by
  have h : Model.ofText mutualText = .ok mutualModels := by decide +kernel
  have he : declarationsText mutualText .interface =
      .error (.recursiveNesting ["B", "C", "B"] ⟨3, 11⟩) := by decide +kernel
  have hc : compile mutualText { root := .named "C" } =
      .error (.recursiveNesting ["C", "B", "C"] ⟨2, 11⟩) := by decide +kernel
  obtain ⟨-, -, first, last⟩ :=
    declarationsText_agrees_with_roots mutualText mutualModels h .interface
  have hlast : mutualModels.getLast? = some ⟨"C", ⟨3, 7⟩, _⟩ := rfl
  have hsame := last _ hlast
  exact ⟨h, he, first _ he, hsame, hc⟩

end ModelSchema
