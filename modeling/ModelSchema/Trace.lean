import ModelSchema.Error

set_option autoImplicit false

/-!
# Traced compilations

A compilation leaves a trace of events beside its outcome. What was traced before a failure stays in
the trace.

## Main definitions

* `Event` — the events of a compilation, with `Event.level`, `Event.message` and `Event.details`.
* `Traced` — an outcome with the events on the way to it, a monad.

## Main results

* `Traced.outcome_bind`, `Traced.outcome_mapM` — the outcome of a traced computation is that of the
  computation without its trace.
-/

namespace ModelSchema

/-- The events of a compilation. -/
inductive Event where
  /-- The document has been cut into tokens. -/
  | tokenized (count : Nat)
  /-- The models have been read. -/
  | parsed (count : Nat)
  /-- The root has been chosen. -/
  | resolving (root : String) (models : Nat)
  /-- A model is about to be expanded; the depth counts the models in expansion, this one
  included. -/
  | expanding (model : String) (depth : Nat)
  /-- A decorator without a meaning has been passed over. -/
  | ignoring (decorator field : String) (position : Position)
  deriving DecidableEq, Inhabited, Repr

namespace Event

/-- How much an event matters. -/
inductive Level where
  | trace
  | debug
  | warn
  deriving DecidableEq, Inhabited, Repr

/-- The level of an event. -/
def level : Event → Level
  | .tokenized _ | .parsed _ | .resolving _ _ => .debug
  | .expanding _ _ => .trace
  | .ignoring _ _ _ => .warn

/-- The message of an event. -/
def message : Event → String
  | .tokenized _ => "tokenized document"
  | .parsed _ => "parsed models"
  | .resolving _ _ => "resolving root model"
  | .expanding _ _ => "expanding model"
  | .ignoring _ _ _ => "ignoring unknown decorator"

/-- The named details of an event. -/
def details : Event → List (String × Json)
  | .tokenized count => [("count", .number count)]
  | .parsed count => [("count", .number count)]
  | .resolving root models => [("root", .string root), ("models", .number models)]
  | .expanding model depth => [("model", .string model), ("depth", .number depth)]
  | .ignoring decorator field position =>
    [("decorator", .string decorator), ("field", .string field), ("line", .number position.line),
      ("column", .number position.column)]

end Event

/-- An outcome and the events on the way to it. -/
structure Traced (α : Type) where
  events : List Event
  outcome : Except CompileError α

namespace Traced

variable {α β : Type}

/-- A value without events. -/
def done (a : α) : Traced α := ⟨[], .ok a⟩

/-- A failure without events. -/
def fail (e : CompileError) : Traced α := ⟨[], .error e⟩

/-- A computation without events. -/
def lift (x : Except CompileError α) : Traced α := ⟨[], x⟩

/-- An event. -/
def log (e : Event) : Traced Unit := ⟨[e], .ok ()⟩

/-- One computation after another; a failure of the first one is the end. -/
def andThen (x : Traced α) (f : α → Traced β) : Traced β :=
  match x.outcome with
  | .ok a => ⟨x.events ++ (f a).events, (f a).outcome⟩
  | .error e => ⟨x.events, .error e⟩

/-- One computation after another: the events of both, up to the first error. -/
instance : Monad Traced where
  pure := done
  bind := andThen

/-- How computations in a row are put together does not matter. -/
instance : LawfulMonad Traced :=
  LawfulMonad.mk' Traced
    (by rintro α ⟨events, _ | a⟩ <;> simp [Functor.map, andThen, done])
    (by intro α β a f; simp [pure, bind, andThen, done])
    (by
      rintro α β γ ⟨events, e | a⟩ f g
      · rfl
      · simp only [bind, andThen]
        cases (f a).outcome <;> simp [List.append_assoc])

/-- A value alone has no events. -/
@[simp]
theorem events_pure (a : α) : (pure a : Traced α).events = [] := rfl

/-- A value alone is its own outcome. -/
@[simp]
theorem outcome_pure (a : α) : (pure a : Traced α).outcome = pure a := rfl

/-- A computation without events has its own outcome. -/
@[simp]
theorem outcome_lift (x : Except CompileError α) : (lift x).outcome = x := rfl

/-- A failure has its error as its outcome. -/
@[simp]
theorem outcome_fail (e : CompileError) : (fail e : Traced α).outcome = .error e := rfl

/-- An event alone has no value. -/
@[simp]
theorem outcome_log (e : Event) : (log e).outcome = pure () := rfl

/-- The outcome of two computations is that of their outcomes. -/
@[simp]
theorem outcome_bind (x : Traced α) (f : α → Traced β) :
    (x >>= f).outcome = x.outcome >>= fun a => (f a).outcome := by
  obtain ⟨events, e | a⟩ := x <;> rfl

/-- The outcome of a function of a value is the function of the outcome. -/
@[simp]
theorem outcome_map (x : Traced α) (f : α → β) : (f <$> x).outcome = f <$> x.outcome := by
  obtain ⟨events, e | a⟩ := x <;> rfl

/-- The outcome of a computation on the elements of a list is that of the outcomes. -/
theorem outcome_mapM (f : α → Traced β) (as : List α) :
    (as.mapM f).outcome = as.mapM fun a => (f a).outcome := by
  induction as with
  | nil => simp
  | cons a as ih => simp [ih]

/-- The outcome of a fold over a list is that of the fold of the outcomes. -/
theorem outcome_foldlM (f : β → α → Traced β) (b : β) (as : List α) :
    (as.foldlM f b).outcome = as.foldlM (fun b a => (f b a).outcome) b := by
  induction as generalizing b with
  | nil => simp
  | cons a as ih => simp [ih]

end Traced

end ModelSchema
