import ModelSchema.Json.Tree

set_option autoImplicit false

/-!
# Reading typed values

Values of known shape are read from a tree. A record is an object whose names are looked up, or an
array that lists its parts from the first on; parts that are missing take their defaults. Unknown
names are passed over, whatever they hold, but a known name must not occur twice.

A reader is given the number of arrays and objects that may still be opened below it, so that a text
cannot nest without end.

## Main definitions

* `Json.nestingLimit` — how many arrays and objects may stand inside each other.
* `Json.Tree.record?` — the parts of a record that are present.
* `Json.Tree.members?` — the members of an object whose names are free.
* `Json.Tree.optional?`, `Json.Tree.bool?`, `Json.Tree.word?`, `Json.Tree.text?`, `Json.Tree.pair?`,
  `Json.Tree.variant?` — readers of parts.
-/

namespace ModelSchema.Json

/-- How many arrays and objects may stand inside each other in a value that is read. -/
def nestingLimit : Nat := 127

namespace Tree

/-- The members of an object whose names are among `names`. All names have to be texts, and none of
`names` may occur twice. -/
def knownMembers? (names : List String) :
    List (Option String × Tree) → Option (List (String × Tree))
  | [] => some []
  | (none, _) :: _ => none
  | (some name, value) :: members =>
    (knownMembers? names members).bind fun known =>
      if name ∈ names then
        if known.any (·.1 == name) then none else some ((name, value) :: known)
      else some known

/-- The parts of a record with the given names, as far as they are present. -/
def record? (names : List String) : Tree → Option (List (String × Tree))
  | .object members => knownMembers? names members
  | .array items => if items.length ≤ names.length then some (names.zip items) else none
  | _ => none

/-- The part of a record under a name, read by `read?`, or its default if it is missing. -/
def part? {α : Type} (parts : List (String × Tree)) (name : String) (missing : Option α)
    (read? : Tree → Option α) : Option α :=
  match parts.find? (·.1 == name) with
  | some part => read? part.2
  | none => missing

/-- The members of an object, each read by `read?`. All names have to be texts. -/
def members? {α : Type} (read? : Tree → Option α) :
    List (Option String × Tree) → Option (List (String × α))
  | [] => some []
  | (none, _) :: _ => none
  | (some name, value) :: members =>
    (read? value).bind fun a => (members? read? members).map fun rest => (name, a) :: rest

/-- A value that may be null. -/
def optional? {α : Type} (read? : Tree → Option α) : Tree → Option (Option α)
  | .null => some none
  | value => (read? value).map some

/-- A boolean. -/
def bool? : Tree → Option Bool
  | .bool b => some b
  | _ => none

/-- A word. -/
def word? : Tree → Option UInt64
  | .number n => n.word?
  | _ => none

/-- A text. -/
def text? : Tree → Option String
  | .string s => s
  | _ => none

/-- Two words in an array. -/
def pair? : Tree → Option (UInt64 × UInt64)
  | .array [a, b] => do
    let a ← a.word?
    let b ← b.word?
    some (a, b)
  | _ => none

/-- A name that stands for itself: the name as a text, or as the only member of an object that holds
null, if an object may be opened. -/
def variant? (room : Nat) : Tree → Option String
  | .string s => s
  | .object [(name, .null)] => if room = 0 then none else name
  | _ => none

end Tree

end ModelSchema.Json
