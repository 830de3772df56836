import ModelSchema.Json.Real
import ModelSchema.Json.Record

set_option autoImplicit false

/-!
# What sampling may be told

Each range is used where a field has no bounds of its own; both of its ends belong to it.

## Main definitions

* `SampleOptions` — the settings, with their defaults.
* `SampleOptions.ofText?` — the settings of a JSON text.
* `SampleOptions.presence` — the probability with which an optional field is there.
-/

namespace ModelSchema

/-- A range of words, both ends included. -/
abbrev WordRange := UInt64 × UInt64

/-- The settings of sampling. -/
structure SampleOptions where
  /-- How likely an optional field is there. -/
  optionalProbability : Binary64
  /-- The lengths of texts. -/
  stringLength : WordRange := (5, 20)
  /-- The numbers. -/
  numbers : WordRange := (0, 1000)
  /-- The lengths of arrays. -/
  arrayLength : WordRange := (2, 5)
  /-- The lengths of both parts of an address before the last point. -/
  emailPartLength : WordRange := (5, 10)
  /-- What stands behind the last point of an address. -/
  emailEnding : String := "com"
  /-- The greatest length of texts and arrays, whatever the bounds say. -/
  maxLength : UInt64 := 10000
  deriving DecidableEq, Repr

namespace SampleOptions

/-- Seven tenths, as far as binary floating point can tell. -/
def defaultProbability : Binary64 :=
  .finite false ⟨6305039478318694, -53⟩

/-- The options where nothing else is said. -/
instance : Inhabited SampleOptions := ⟨{ optionalProbability := defaultProbability }⟩

/-- The names of the settings, in order. -/
def partNames : List String :=
  ["optional_probability", "string_len", "number_range", "array_len", "email_part_len", "email_tld",
    "max_len"]

/-- A number in binary floating point. -/
def real? : Json.Tree → Option Binary64
  | .number n => n.binary64?
  | _ => none

/-- The settings of a tree. -/
def ofTree? (value : Json.Tree) : Option SampleOptions := do
  let parts ← value.record? partNames
  let probability ← Json.Tree.part? parts "optional_probability" (some defaultProbability) real?
  let options : SampleOptions := { optionalProbability := probability }
  let stringLength ← Json.Tree.part? parts "string_len" options.stringLength Json.Tree.pair?
  let numbers ← Json.Tree.part? parts "number_range" options.numbers Json.Tree.pair?
  let arrayLength ← Json.Tree.part? parts "array_len" options.arrayLength Json.Tree.pair?
  let emailPartLength ← Json.Tree.part? parts "email_part_len" options.emailPartLength
    Json.Tree.pair?
  let emailEnding ← Json.Tree.part? parts "email_tld" options.emailEnding Json.Tree.text?
  let maxLength ← Json.Tree.part? parts "max_len" options.maxLength Json.Tree.word?
  some { options with stringLength, numbers, arrayLength, emailPartLength, emailEnding, maxLength }

/-- The settings of a JSON text. -/
def ofText? (text : String) : Option SampleOptions :=
  (Json.Tree.ofText? text).bind ofTree?

/-- The probability with which an optional field is there: the given one, brought between zero and
one; the default, if the given one is not a number. -/
def presence (options : SampleOptions) : Binary64 :=
  match options.optionalProbability with
  | .nan => defaultProbability
  | p => p.clampUnit

end SampleOptions

end ModelSchema
