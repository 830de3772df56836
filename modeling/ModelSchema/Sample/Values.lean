import ModelSchema.Instant
import ModelSchema.Sample.Draw
import ModelSchema.Sample.Options
import ModelSchema.Schema.Basic
import ModelSchema.Text.Lowercase

set_option autoImplicit false

/-!
# Sample values

A sample of a field is a random value that fits its description. A field that is restricted to
literals is one of them; any other is a value of its kind. An object has its required members, and
each of the others with the probability that was asked for.

## Main definitions

* `span` — the range that bounds and a fallback leave.
* `Draw.letters`, `Draw.email`, `Draw.date`, `Draw.uuid` — values of single kinds.
* `FieldSchema.sample`, `Schema.sample` — samples of a field and of a schema.
-/

namespace ModelSchema

/-! ## Ranges -/

/-- The range between bounds. Where one is missing, the end of the fallback takes its place; and the
ends are never the wrong way round, because an end that would be gives way to the other one. -/
def span (min max : Option UInt64) (fallback : WordRange) : WordRange :=
  match min, max with
  | some lo, some hi => (lo, Max.max hi lo)
  | some lo, none => (lo, Max.max fallback.2 lo)
  | none, some hi => (Min.min fallback.1 hi, hi)
  | none, none => (fallback.1, Max.max fallback.2 fallback.1)

/-- A range with both ends cut to a greatest value. -/
def WordRange.cap (range : WordRange) (greatest : UInt64) : WordRange :=
  (Min.min range.1 greatest, Min.min range.2 greatest)

/-! ## Single kinds -/

namespace Draw

/-- A letter of the alphabet: the small ones first, then the capitals. -/
def letter : Draw Char := do
  let i ← below 64 52
  return if i < 26 then Char.ofNat (97 + i) else Char.ofNat (65 + (i - 26))

/-- Letters, as many as a number in `range`. -/
def letters (range : WordRange) : Draw (List Char) := do
  let length ← between range.1 range.2
  times length.toNat letter

/-- An address: two parts of letters and an ending, all in lower case. The longer of both lengths is
the second one, whatever their order. -/
def email (range : WordRange) (ending : String) : Draw String := do
  let range := (range.1, Max.max range.2 range.1)
  let name ← letters range
  let host ← letters range
  return Text.lowercase (String.ofList (name ++ '@' :: (host ++ '.' :: ending.toList)))

/-- The earliest instant that is drawn, the beginning of 2020. -/
def firstMillis : Int := 1577836800000

/-- An instant from the first one to `last`, or to the first one if `last` is before it.
Milliseconds that the calendar does not cover are no instant: they may be drawn if `last` is in a
leap second. -/
def instant (last : Instant) : Draw (Option Instant) := do
  let offset ← below 64 (Max.max last.millis firstMillis - firstMillis + 1).toNat
  return Instant.ofMillis? (firstMillis + offset)

/-- A date: an instant as it is written, and an empty text if there is none. -/
def date (last : Instant) : Draw String :=
  return ((← instant last).map Instant.text).getD ""

/-- Two hexadecimal digits. -/
def hexByte (byte : Nat) : List Char :=
  [Nat.digitChar (byte / 16), Nat.digitChar (byte % 16)]

/-- Sixteen bytes as a version 4 identifier: groups of digits with hyphens between them. The version
takes the place of the high half of the seventh byte, and the variant that of the two highest bits
of the ninth. -/
def uuidChars (bytes : List Nat) : List Char :=
  let marked := (bytes.modify 6 fun b => 64 + b % 16).modify 8 fun b => 128 + b % 64
  let digits := marked.flatMap hexByte
  digits.take 8 ++ '-' :: ((digits.drop 8).take 4 ++ '-' :: ((digits.drop 12).take 4 ++ '-' ::
    ((digits.drop 16).take 4 ++ '-' :: digits.drop 20)))

/-- A version 4 identifier. -/
def uuid : Draw String :=
  return String.ofList (uuidChars (← times 16 byte))

end Draw

/-! ## Fields and schemas -/

/-- What a sample depends on beside the schema and the words. -/
structure Sampler where
  options : SampleOptions := default
  /-- The latest instant that is drawn. -/
  now : Instant

/-- The range of lengths of a field. -/
def Sampler.lengths (sampler : Sampler) (min max : Option UInt64) (fallback : WordRange) :
    WordRange :=
  (span min max fallback).cap sampler.options.maxLength

mutual

/-- A sample of a field. -/
def FieldSchema.sample (sampler : Sampler) : FieldSchema → Draw Json
  | { kind, min, max, choices, item, fields, .. } =>
    match choices with
    | some (first :: others) => return (← Draw.choose (first :: others)).toJson
    | _ =>
      match kind with
      | .string => do
        let letters ← Draw.letters (sampler.lengths min max sampler.options.stringLength)
        return .string (String.ofList letters)
      | .number => do
        let range := span min max sampler.options.numbers
        return .number (← Draw.between range.1 range.2).toNat
      | .boolean => return .bool (← Draw.bit)
      | .date => return .string (← Draw.date sampler.now)
      | .email => do
        let options := sampler.options
        return .string (← Draw.email options.emailPartLength options.emailEnding)
      | .uuid => return .string (← Draw.uuid)
      | .array => do
        let range := sampler.lengths min max sampler.options.arrayLength
        let length ← Draw.between range.1 range.2
        return .array (← Draw.times length.toNat (itemSample sampler item))
      | .object => fieldsSample sampler fields

/-- A sample of an element; without a description, null. -/
def itemSample (sampler : Sampler) : Option FieldSchema → Draw Json
  | none => return .null
  | some item => item.sample sampler

/-- A sample of an object; without a description, one without members. -/
def fieldsSample (sampler : Sampler) : Option (List (String × FieldSchema)) → Draw Json
  | none => return .object []
  | some fields => return .object (← membersSample sampler fields)

/-- Samples of the members of an object, without those that are left out. -/
def membersSample (sampler : Sampler) :
    List (String × FieldSchema) → Draw (List (String × Json))
  | [] => return []
  | (name, field) :: fields => do
    let isThere ← if field.required then pure true else Draw.chance sampler.options.presence
    if isThere then do
      let value ← field.sample sampler
      return (name, value) :: (← membersSample sampler fields)
    else membersSample sampler fields

end

/-- A sample of a schema. -/
def Schema.sample (sampler : Sampler) (schema : Schema) : Draw Json :=
  return .object (← membersSample sampler schema)

/-- Samples of a schema, as many as asked for. -/
def Schema.samples (sampler : Sampler) (schema : Schema) (count : Nat) : Draw (List Json) :=
  Draw.times count (schema.sample sampler)

end ModelSchema
