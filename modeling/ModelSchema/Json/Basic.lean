set_option autoImplicit false

/-!
# JSON values

The JSON values that this library writes: numbers are natural numbers, and the members of an object
keep their order.

## Main definitions

* `Json` — a JSON value.
-/

namespace ModelSchema

/-- A JSON value. The members of an object stand in the order in which they are written. -/
inductive Json where
  | null
  | bool (value : Bool)
  | number (value : Nat)
  | string (value : String)
  | array (items : List Json)
  | object (members : List (String × Json))
  deriving Inhabited, Repr

namespace Json

/-- An object with the members that are present, in order. -/
def objectOf (members : List (Option (String × Json))) : Json :=
  .object (members.filterMap id)

/-- A member that is always written. -/
def always (name : String) (value : Json) : Option (String × Json) :=
  some (name, value)

/-- A member that is written when there is a value for it. -/
def present (name : String) (value : Option Json) : Option (String × Json) :=
  value.map fun v => (name, v)

/-- A flag that is written only when it is set. -/
def flag (name : String) (value : Bool) : Option (String × Json) :=
  if value then some (name, .bool true) else none

end Json

end ModelSchema
