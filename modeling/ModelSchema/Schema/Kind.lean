set_option autoImplicit false

/-!
# Kinds of fields

## Main definitions

* `FieldKind` — the primitive kinds of a field.
* `FieldKind.ofName?`, `FieldKind.name` — the kind of a name and the name of a kind.

## Main results

* `FieldKind.ofName?_eq_some_iff` — a name has a kind exactly when it is the name of that kind.
-/

namespace ModelSchema

/-- The primitive kinds of a field. -/
inductive FieldKind where
  | string
  | number
  | boolean
  | date
  | uuid
  | email
  | object
  | array
  deriving DecidableEq, Inhabited, Repr

namespace FieldKind

/-- All kinds. -/
def all : List FieldKind :=
  [.string, .number, .boolean, .date, .uuid, .email, .object, .array]

/-- The name of a kind, in documents and in JSON. -/
def name : FieldKind → String
  | .string => "string"
  | .number => "number"
  | .boolean => "boolean"
  | .date => "date"
  | .uuid => "uuid"
  | .email => "email"
  | .object => "object"
  | .array => "array"

/-- The kind with the given name, if there is one. -/
def ofName? (name : String) : Option FieldKind :=
  all.find? fun kind => kind.name == name

/-- Kinds with the same name are the same. -/
theorem name_injective {a b : FieldKind} (h : a.name = b.name) : a = b := by
  cases a <;> cases b <;> first | rfl | exact absurd h (by decide)

/-- Every kind is listed. -/
theorem mem_all (kind : FieldKind) : kind ∈ all := by
  cases kind <;> decide

/-- A name has a kind exactly when it is the name of that kind. -/
theorem ofName?_eq_some_iff {name : String} {kind : FieldKind} :
    ofName? name = some kind ↔ kind.name = name := by
  constructor
  · intro h
    simpa using List.find?_some h
  · rintro rfl
    cases kind <;> decide

end FieldKind

end ModelSchema
