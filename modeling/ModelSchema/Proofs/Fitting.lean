import Mathlib.Data.List.Forall2
import ModelSchema.Proofs.Calendar
import ModelSchema.Proofs.Draws
import ModelSchema.Sample.Values

set_option autoImplicit false

/-!
# Samples fit

What it means that a value fits the description of a field is said by one rule for each kind of
value. A sample is always such a value: it obeys the rule of its kind at every depth.

## Main definitions

* `WordRange.Holds` — a number lies in a range.
* `IsLetters`, `IsEmail`, `IsUuid`, `IsDate` — the texts of single kinds, and `Timestamp.first`, the
  earliest date.
* `FieldSchema.Fits`, `MembersFit` — the values that fit a field, and the members that fit an
  object.

## Main results

* `span_ordered`, `Sampler.lengths_ordered` — no range is the wrong way round.
* `isDate_empty_iff` — when a date may be missing.
* `Draw.yields_letters`, `Draw.yields_email`, `Draw.yields_date`, `Draw.yields_uuid` — values of
  single kinds.
* `FieldSchema.sample_fits` — a sample fits, and nothing but a lack of words keeps it from being
  drawn.
-/

namespace ModelSchema

/-! ## Ranges -/

/-- A number lies in a range, both ends included. -/
def WordRange.Holds (range : WordRange) (n : ℕ) : Prop :=
  range.1.toNat ≤ n ∧ n ≤ range.2.toNat

/-- The second word is at most the greater one. -/
lemma word_le_max_right (a b : UInt64) : b ≤ Max.max a b := by
  rw [UInt64.le_iff_toNat_le]
  change b.toNat ≤ (if a ≤ b then b else a).toNat
  split
  · exact Nat.le_refl _
  · next h =>
    rw [UInt64.le_iff_toNat_le] at h
    omega

/-- The smaller word is at most the second one. -/
lemma word_min_le_right (a b : UInt64) : Min.min a b ≤ b := by
  rw [UInt64.le_iff_toNat_le]
  change (if a ≤ b then a else b).toNat ≤ b.toNat
  split
  · next h => exact UInt64.le_iff_toNat_le.1 h
  · exact Nat.le_refl _

/-- The smaller of a word and `c` does not fall when the word grows. -/
lemma word_min_le_min_right {a b : UInt64} (h : a ≤ b) (c : UInt64) :
    Min.min a c ≤ Min.min b c := by
  rw [UInt64.le_iff_toNat_le] at h ⊢
  change (if a ≤ c then a else c).toNat ≤ (if b ≤ c then b else c).toNat
  simp only [UInt64.le_iff_toNat_le]
  split <;> split <;> omega

/-- The greater of two words does not depend on their order. -/
lemma word_max_comm (a b : UInt64) : Max.max a b = Max.max b a := by
  change (if a ≤ b then b else a) = if b ≤ a then a else b
  simp only [UInt64.le_iff_toNat_le]
  split <;> split
  · next h₁ h₂ => exact UInt64.toNat_inj.1 (Nat.le_antisymm h₂ h₁)
  · rfl
  · rfl
  · omega

/-- The first word is at most the greater one. -/
lemma word_le_max_left (a b : UInt64) : a ≤ Max.max a b := by
  rw [word_max_comm]
  exact word_le_max_right b a

/-- The ends of a range between bounds are not the wrong way round, whatever the bounds and the
fallback are. -/
theorem span_ordered (min max : Option UInt64) (fallback : WordRange) :
    (span min max fallback).1 ≤ (span min max fallback).2 := by
  unfold span
  split
  · exact word_le_max_right _ _
  · exact word_le_max_right _ _
  · exact word_min_le_right _ _
  · exact word_le_max_right _ _

/-- A greatest length keeps the ends of a range in order. -/
theorem Sampler.lengths_ordered (sampler : Sampler) (min max : Option UInt64)
    (fallback : WordRange) :
    (sampler.lengths min max fallback).1 ≤ (sampler.lengths min max fallback).2 :=
  word_min_le_min_right (span_ordered min max fallback) _

/-! ## Texts of single kinds -/

/-- Letters of the alphabet, as many as a number in a range. -/
def IsLetters (range : WordRange) (cs : List Char) : Prop :=
  (∀ c ∈ cs, c.isAlpha = true) ∧ range.Holds cs.length

/-- An address: two parts of letters with an at sign between them, a point and an ending, in lower
case. The number of letters of each part is at least the first end of the range, and at most the
greater of both. -/
def IsEmail (range : WordRange) (ending text : String) : Prop :=
  ∃ name host, IsLetters (range.1, Max.max range.1 range.2) name ∧
    IsLetters (range.1, Max.max range.1 range.2) host ∧
    text = Text.lowercase (String.ofList (name ++ '@' :: (host ++ '.' :: ending.toList)))

/-- Lower-case hexadecimal digits. -/
def hexDigits : List Char :=
  ['0', '1', '2', '3', '4', '5', '6', '7', '8', '9', 'a', 'b', 'c', 'd', 'e', 'f']

/-- What may stand at a place of an identifier: any digit at an x, the digit of the variant at a y,
and any other place holds itself. -/
def FillsPlace (place c : Char) : Prop :=
  if place = 'x' then c ∈ hexDigits
  else if place = 'y' then c ∈ ['8', '9', 'a', 'b']
  else c = place

/-- The places of a version 4 identifier. -/
def uuidPlaces : List Char :=
  "xxxxxxxx-xxxx-4xxx-yxxx-xxxxxxxxxxxx".toList

/-- A version 4 identifier. -/
def IsUuid (text : String) : Prop :=
  List.Forall₂ FillsPlace uuidPlaces text.toList

/-- The beginning of 2020. -/
def Timestamp.first : Timestamp where
  year := 2020
  month := 1
  day := 1
  hour := 0
  minute := 0
  second := 0
  milli := 0
  month_range := by decide
  day_range := by decide
  hour_lt := by decide
  minute_lt := by decide
  second_lt := by decide
  milli_lt := by decide

/-- A date up to `last`: a date of the calendar and a time of day, not before the first one, and not
after `last` unless that is before the first one. Where the milliseconds of `last` are beyond the
calendar, as in a leap second at its end, the text may also be empty. -/
inductive IsDate (last : Instant) : String → Prop where
  | timed {time : Timestamp} (not_before : Timestamp.first.millis ≤ time.millis)
      (not_after : time.millis ≤ Max.max last.millis Timestamp.first.millis)
      (covered : time.millis ≤ Instant.lastMillis) : IsDate last time.text
  | blank (beyond : Instant.lastMillis < last.millis) : IsDate last ""

namespace Draw

/-- A drawn letter is a letter. -/
lemma yields_letter : Yields letter (·.isAlpha = true) := by
  have isAlpha (i : Fin 52) :
      (if i.val < 26 then Char.ofNat (97 + i) else Char.ofNat (65 + (i - 26))).isAlpha = true := by
    revert i
    decide
  exact (yields_below 64 (by decide)).bind fun i hi => .pure (isAlpha ⟨i, hi⟩)

/-- Letters are letters, as many as a number in the range. -/
lemma yields_letters {range : WordRange} (h : range.1 ≤ range.2) :
    Yields (letters range) (IsLetters range) := by
  refine (yields_between h).bind fun length hlength => (yields_letter.times _).imp fun cs hcs => ?_
  obtain ⟨hlo, hhi⟩ := hlength
  rw [UInt64.le_iff_toNat_le] at hlo hhi
  exact ⟨hcs.2, by rw [hcs.1]; exact hlo, by rw [hcs.1]; exact hhi⟩

/-- An address has the form of one, whichever end of the range is the greater one. -/
lemma yields_email (range : WordRange) (ending : String) :
    Yields (email range ending) (IsEmail range ending) := by
  unfold email
  rw [word_max_comm range.2]
  have hordered : range.1 ≤ Max.max range.1 range.2 := word_le_max_left _ _
  refine (yields_letters hordered).bind fun name hname => ?_
  exact (yields_letters hordered).bind fun host hhost => .pure ⟨name, host, hname, hhost, rfl⟩

/-- The first instant is the beginning of 2020. -/
lemma firstMillis_eq : firstMillis = Timestamp.first.millis := by decide

/-- An instant lies between the first one and the last one, if that is not before the first one. It
is missing only where the milliseconds of the last one are beyond the calendar. -/
lemma yields_instant (last : Instant) : Yields (instant last) fun
    | some drawn => drawn.milli < 1000 ∧ Timestamp.first.millis ≤ drawn.millis ∧
        drawn.millis ≤ Max.max last.millis Timestamp.first.millis ∧
        drawn.millis ≤ Instant.lastMillis
    | none => Instant.lastMillis < last.millis := by
  have hfirst : firstMillis = 1577836800000 := rfl
  rw [← firstMillis_eq]
  unfold instant
  refine (yields_below 64 (by omega)).bind fun offset hoffset => .pure ?_
  have hnonneg : 0 ≤ firstMillis + (offset : Int) := by omega
  have hnone := Instant.ofMillis?_eq_none_iff hnonneg
  cases hdrawn : Instant.ofMillis? (firstMillis + offset) with
  | none =>
    have hbeyond := hnone.1 hdrawn
    have hlast : Instant.lastMillis = 8210266876799999 := rfl
    dsimp only
    omega
  | some drawn =>
    obtain ⟨hmillis, hmilli⟩ := Instant.millis_of_ofMillis? hdrawn
    have hin : ¬ Instant.lastMillis < firstMillis + offset := by
      rw [← hnone, hdrawn]
      exact nofun
    dsimp only
    rw [hmillis]
    exact ⟨hmilli, by omega, by omega, by omega⟩

/-- A date is one. -/
lemma yields_date (last : Instant) : Yields (date last) (IsDate last) := by
  refine (yields_instant last).bind fun drawn hdrawn => .pure ?_
  cases drawn with
  | none => exact .blank hdrawn
  | some drawn =>
    obtain ⟨hmilli, hfirst, hlast, hcovered⟩ := hdrawn
    obtain ⟨time, hmillis, htext⟩ := Instant.exists_timestamp hmilli
    rw [← hmillis] at hfirst hlast hcovered
    change IsDate last drawn.text
    rw [← htext]
    exact .timed hfirst hlast hcovered

/-- The digit of a number below 16 is hexadecimal. -/
lemma digitChar_mem_hexDigits {n : ℕ} (h : n < 16) : n.digitChar ∈ hexDigits := by
  have digit : ∀ n : Fin 16, n.val.digitChar ∈ hexDigits := by decide
  exact digit ⟨n, h⟩

/-- The characters of sixteen bytes with version and variant marked stand at the places of an
identifier.

**Proof sketch.** Each byte is two digits. The high half of the seventh byte is four, and the high
half of the ninth one is at least eight and at most eleven. -/
lemma forall₂_uuidChars {bytes : List ℕ} (hlength : bytes.length = 16)
    (hbytes : ∀ b ∈ bytes, b < 256) : List.Forall₂ FillsPlace uuidPlaces (uuidChars bytes) := by
  have digit {n : ℕ} (h : n < 16) : FillsPlace 'x' n.digitChar := digitChar_mem_hexDigits h
  have high {b : ℕ} (h : b < 256) : FillsPlace 'x' (b / 16).digitChar := digit (by omega)
  have low {b : ℕ} : FillsPlace 'x' (b % 16).digitChar := digit (Nat.mod_lt _ (by decide))
  have version (b : ℕ) : FillsPlace '4' ((64 + b % 16) / 16).digitChar := by
    have : (64 + b % 16) / 16 = 4 := by omega
    rw [this]
    rfl
  have variant (b : ℕ) : FillsPlace 'y' ((128 + b % 64) / 16).digitChar := by
    have high : ∀ n : Fin 4, (8 + n.val).digitChar ∈ ['8', '9', 'a', 'b'] := by decide
    have : (128 + b % 64) / 16 = 8 + b % 64 / 16 := by omega
    rw [this]
    exact high ⟨b % 64 / 16, by omega⟩
  have hyphen : FillsPlace '-' '-' := rfl
  obtain ⟨b0, b1, b2, b3, b4, b5, b6, b7, b8, b9, b10, b11, b12, b13, b14, b15, rfl⟩ :
      ∃ b0 b1 b2 b3 b4 b5 b6 b7 b8 b9 b10 b11 b12 b13 b14 b15,
        bytes = [b0, b1, b2, b3, b4, b5, b6, b7, b8, b9, b10, b11, b12, b13, b14, b15] := by
    match bytes, hlength with
    | [b0, b1, b2, b3, b4, b5, b6, b7, b8, b9, b10, b11, b12, b13, b14, b15], _ =>
      exact ⟨_, _, _, _, _, _, _, _, _, _, _, _, _, _, _, _, rfl⟩
  simp only [List.forall_mem_cons] at hbytes
  change List.Forall₂ FillsPlace
    ['x', 'x', 'x', 'x', 'x', 'x', 'x', 'x', '-', 'x', 'x', 'x', 'x', '-', '4', 'x', 'x', 'x', '-',
      'y', 'x', 'x', 'x', '-', 'x', 'x', 'x', 'x', 'x', 'x', 'x', 'x', 'x', 'x', 'x', 'x'] _
  simp only [uuidChars, hexByte, List.modify_succ_cons, List.modify_zero_cons, List.flatMap_cons,
    List.flatMap_nil, List.cons_append, List.nil_append, List.take_succ_cons, List.take_zero,
    List.drop_succ_cons, List.drop_zero, List.forall₂_cons]
  simp [high, low, version, variant, hyphen, hbytes]

/-- A version 4 identifier has the form of one. -/
lemma yields_uuid : Yields uuid IsUuid := by
  refine (yields_byte.times 16).bind fun bytes hbytes => .pure ?_
  unfold IsUuid
  rw [String.toList_ofList]
  exact forall₂_uuidChars hbytes.1 hbytes.2

end Draw

/-! ## Fields -/

mutual

/-- A value fits the description of a field. A field that is restricted to literals, of which there
is one at least, is one of them; any other field is free, and then its kind decides. -/
inductive FieldSchema.Fits (sampler : Sampler) : FieldSchema → Json → Prop where
  /-- One of the literals that the field is restricted to. -/
  | choice {field : FieldSchema} {literals : List Literal} {literal : Literal}
      (restricted : field.choices = some literals) (mem : literal ∈ literals) :
      FieldSchema.Fits sampler field literal.toJson
  | string {field : FieldSchema} {letters : List Char} (free : field.isEnum = false)
      (kind : field.kind = .string)
      (letters_of : IsLetters (sampler.lengths field.min field.max sampler.options.stringLength)
        letters) :
      FieldSchema.Fits sampler field (.string (String.ofList letters))
  | number {field : FieldSchema} {n : ℕ} (free : field.isEnum = false) (kind : field.kind = .number)
      (range : (span field.min field.max sampler.options.numbers).Holds n) :
      FieldSchema.Fits sampler field (.number n)
  | boolean {field : FieldSchema} (free : field.isEnum = false) (kind : field.kind = .boolean)
      (b : Bool) :
      FieldSchema.Fits sampler field (.bool b)
  | date {field : FieldSchema} {text : String} (free : field.isEnum = false)
      (kind : field.kind = .date)
      (form : IsDate sampler.now text) : FieldSchema.Fits sampler field (.string text)
  | email {field : FieldSchema} {text : String} (free : field.isEnum = false)
      (kind : field.kind = .email)
      (form : IsEmail sampler.options.emailPartLength sampler.options.emailEnding text) :
      FieldSchema.Fits sampler field (.string text)
  | uuid {field : FieldSchema} {text : String} (free : field.isEnum = false)
      (kind : field.kind = .uuid)
      (form : IsUuid text) : FieldSchema.Fits sampler field (.string text)
  /-- An array whose elements are described. -/
  | array {field item : FieldSchema} {values : List Json} (free : field.isEnum = false)
      (kind : field.kind = .array) (described : field.item = some item)
      (length : (sampler.lengths field.min field.max sampler.options.arrayLength).Holds
        values.length)
      (inside : ∀ value ∈ values, FieldSchema.Fits sampler item value) :
      FieldSchema.Fits sampler field (.array values)
  /-- An array whose elements are not described: all of them are null. -/
  | bareArray {field : FieldSchema} {values : List Json} (free : field.isEnum = false)
      (kind : field.kind = .array) (bare : field.item = none)
      (length : (sampler.lengths field.min field.max sampler.options.arrayLength).Holds
        values.length)
      (nulls : ∀ value ∈ values, value = .null) : FieldSchema.Fits sampler field (.array values)
  /-- An object whose members are described. -/
  | object {field : FieldSchema} {fields : List (String × FieldSchema)}
      {members : List (String × Json)} (free : field.isEnum = false) (kind : field.kind = .object)
      (described : field.fields = some fields) (inside : MembersFit sampler fields members) :
      FieldSchema.Fits sampler field (.object members)
  /-- An object whose members are not described: it has none. -/
  | bareObject {field : FieldSchema} (free : field.isEnum = false) (kind : field.kind = .object)
      (bare : field.fields = none) : FieldSchema.Fits sampler field (.object [])

/-- The members of an object fit their descriptions: they stand in the order of these, each under
its name, and only such may be missing as are not required. -/
inductive MembersFit (sampler : Sampler) :
    List (String × FieldSchema) → List (String × Json) → Prop where
  | nil : MembersFit sampler [] []
  | present {name : String} {field : FieldSchema} {fields : List (String × FieldSchema)}
      {value : Json} {members : List (String × Json)} (fits : FieldSchema.Fits sampler field value)
      (others : MembersFit sampler fields members) :
      MembersFit sampler ((name, field) :: fields) ((name, value) :: members)
  | missing {name : String} {field : FieldSchema} {fields : List (String × FieldSchema)}
      {members : List (String × Json)} (optional : field.required = false)
      (others : MembersFit sampler fields members) :
      MembersFit sampler ((name, field) :: fields) members

end

/-! ## Samples -/

section Samples

open Draw

variable (sampler : Sampler)

/-- A sample of a field that is restricted to literals is one of them. -/
lemma FieldSchema.sample_of_choices {field : FieldSchema} {literals : List Literal}
    (h : field.choices = some literals) (hne : literals ≠ []) :
    field.sample sampler = do return (← choose literals).toJson := by
  obtain ⟨first, others, rfl⟩ := List.exists_cons_of_ne_nil hne
  cases field
  cases h
  rfl

/-- A sample of any other field is a value of its kind. -/
lemma FieldSchema.sample_of_free {field : FieldSchema} (h : field.isEnum = false) :
    field.sample sampler =
      match field.kind with
      | .string => do
        let letters ← letters (sampler.lengths field.min field.max sampler.options.stringLength)
        return .string (String.ofList letters)
      | .number => do
        let range := span field.min field.max sampler.options.numbers
        return .number (← between range.1 range.2).toNat
      | .boolean => return .bool (← bit)
      | .date => return .string (← date sampler.now)
      | .email => do
        let options := sampler.options
        return .string (← email options.emailPartLength options.emailEnding)
      | .uuid => return .string (← uuid)
      | .array => do
        let range := sampler.lengths field.min field.max sampler.options.arrayLength
        let length ← between range.1 range.2
        return .array (← times length.toNat (itemSample sampler field.item))
      | .object => fieldsSample sampler field.fields := by
  obtain ⟨kind, required, min, max, choices, item, fields, nullable, hidden, marked, initial⟩ :=
    field
  unfold FieldSchema.sample
  rcases choices with _ | _ | ⟨first, others⟩
  · rfl
  · rfl
  · cases h

/-- Samples of members: whether the first one is there, its value if it is, and the others. -/
lemma membersSample_cons (name : String) (field : FieldSchema)
    (fields : List (String × FieldSchema)) :
    membersSample sampler ((name, field) :: fields) =
      (if field.required then pure true else chance sampler.options.presence) >>= fun isThere =>
        if isThere then do
          let value ← field.sample sampler
          let members ← membersSample sampler fields
          return (name, value) :: members
        else membersSample sampler fields := by
  rw [membersSample]
  split <;> rfl

mutual

/-- A sample of a field fits it.

**Proof sketch.** Induction on the description. A restricted field draws one of its literals; a free
one draws a value of its kind, from a range that is never the wrong way round. -/
lemma FieldSchema.yields_sample :
    (field : FieldSchema) → Yields (field.sample sampler) (field.Fits sampler)
  | { kind, required, min, max, choices, item, fields, nullable, hidden, marked, initial } => by
    unfold FieldSchema.sample
    split
    · exact (yields_choose (List.cons_ne_nil _ _)).bind fun literal hl => .pure (.choice rfl hl)
    next hfree =>
    have free : (FieldSchema.mk kind required min max choices item fields nullable hidden marked
        initial).isEnum = false := by
      unfold FieldSchema.isEnum
      split
      · next heq => exact absurd heq (hfree _ _)
      · rfl
    cases kind with
    | string =>
      refine (yields_letters (sampler.lengths_ordered _ _ _)).bind fun letters hl => ?_
      exact .pure (.string free rfl hl)
    | number =>
      refine (yields_between (span_ordered _ _ _)).bind fun n hn => .pure (.number free rfl ?_)
      exact ⟨UInt64.le_iff_toNat_le.1 hn.1, UInt64.le_iff_toNat_le.1 hn.2⟩
    | boolean => exact yields_bit.bind fun b _ => .pure (.boolean free rfl b)
    | date => exact (yields_date sampler.now).bind fun text ht => .pure (.date free rfl ht)
    | email => exact (yields_email _ _).bind fun text ht => .pure (.email free rfl ht)
    | uuid => exact yields_uuid.bind fun text ht => .pure (.uuid free rfl ht)
    | array =>
      refine (yields_between (sampler.lengths_ordered _ _ _)).bind fun length hlength => ?_
      refine ((yields_itemSample item).times _).bind fun values hvalues => .pure ?_
      have hholds : (sampler.lengths min max sampler.options.arrayLength).Holds values.length := by
        rw [hvalues.1]
        exact ⟨UInt64.le_iff_toNat_le.1 hlength.1, UInt64.le_iff_toNat_le.1 hlength.2⟩
      cases item with
      | none => exact .bareArray free rfl rfl hholds hvalues.2
      | some item => exact .array free rfl rfl hholds hvalues.2
    | object =>
      refine (yields_fieldsSample fields).imp fun value hvalue => ?_
      cases fields with
      | none =>
        obtain rfl : value = .object [] := hvalue
        exact .bareObject free rfl rfl
      | some fields =>
        obtain ⟨members, rfl, hmembers⟩ := hvalue
        exact .object free rfl rfl hmembers

/-- A sample of an element fits it, if it is described; otherwise it is null. -/
lemma yields_itemSample : (item : Option FieldSchema) →
    Yields (itemSample sampler item) fun value =>
      match item with
      | none => value = .null
      | some item => item.Fits sampler value
  | none => .pure rfl
  | some item => item.yields_sample

/-- A sample of an object has members that fit, if they are described; otherwise it has none. -/
lemma yields_fieldsSample : (fields : Option (List (String × FieldSchema))) →
    Yields (fieldsSample sampler fields) fun value =>
      match fields with
      | none => value = .object []
      | some fields => ∃ members, value = .object members ∧ MembersFit sampler fields members
  | none => .pure rfl
  | some fields => (yields_membersSample fields).bind fun members hm => .pure ⟨members, rfl, hm⟩

/-- Samples of members fit; one that is required is there, and another one may be. -/
lemma yields_membersSample : (fields : List (String × FieldSchema)) →
    Yields (membersSample sampler fields) (MembersFit sampler fields)
  | [] => .pure .nil
  | (name, field) :: fields => by
    have hthere : Yields (if field.required then pure true else chance sampler.options.presence)
        fun isThere => isThere = true ∨ field.required = false := by
      split
      · exact .pure (.inl rfl)
      · next h =>
        refine (yields_chance sampler.options.isUnit_presence).imp fun _ _ => .inr ?_
        exact Bool.eq_false_iff.2 h
    rw [membersSample_cons]
    refine hthere.bind fun isThere ht => ?_
    split
    · refine field.yields_sample.bind fun value hvalue => ?_
      exact (yields_membersSample fields).bind fun members hm => .pure (.present hvalue hm)
    · next h =>
      have optional := ht.resolve_left h
      exact (yields_membersSample fields).imp fun members hm => .missing optional hm

end

/-- A sample of a schema is an object whose members fit. -/
lemma Schema.yields_sample (schema : Schema) :
    Yields (schema.sample sampler) fun value =>
      ∃ members, value = .object members ∧ MembersFit sampler schema members :=
  (yields_membersSample sampler schema).bind fun members hm => .pure ⟨members, rfl, hm⟩

end Samples

/-- **Every sample fits.** Whatever the settings, the present and the words are, a field yields a
value that fits it, and a schema an object whose members fit; they fail only where the words run
out. The dates among them have a year of four digits, except those of the year 10000 and later. -/
theorem FieldSchema.sample_fits (sampler : Sampler) (words : List UInt64) :
    (∀ field : FieldSchema, field.sample sampler words = .error .exhausted ∨
      ∃ value rest, field.sample sampler words = .ok (value, rest) ∧ field.Fits sampler value) ∧
    (∀ schema : Schema, schema.sample sampler words = .error .exhausted ∨
      ∃ members rest, schema.sample sampler words = .ok (.object members, rest) ∧
        MembersFit sampler schema members) ∧
    ∀ time : Timestamp, Timestamp.first.millis ≤ time.millis →
      (Timestamp.IsPlain time.text ↔ time.year ≤ 9999) := by
  refine ⟨fun field => field.yields_sample sampler words, fun schema => ?_, fun time hfirst => ?_⟩
  · obtain h | ⟨_, rest, h, members, rfl, hm⟩ := Schema.yields_sample sampler schema words
    · exact .inl h
    · exact .inr ⟨members, rest, h, hm⟩
  · rw [Timestamp.isPlain_text_iff]
    exact and_iff_right (Timestamp.year_nonneg (le_trans (by decide) hfirst))

/-- The beginning of the year 10000. -/
def Instant.yearTenThousand : Instant :=
  { Instant.epoch with second := 253402300800, covered := by decide }

/-- The last instant of all, in the leap second at the end of the calendar. -/
def Instant.latest : Instant where
  second := 8210266876799
  milli := 1999
  covered := by decide
  milli_lt := by decide

/-- There are dates with a year of more than four digits; and where the present is in the last leap
second, a date may be an empty text, which is that of no time at all. -/
theorem FieldSchema.sample_date_unplain :
    (∃ text, (ofKind .date).sample ⟨default, .yearTenThousand⟩ [18446744073709478364] =
        .ok (.string text, []) ∧ text = "+10000-01-01T00:00:00.000Z" ∧ ¬ Timestamp.IsPlain text) ∧
      ∃ text, (ofKind .date).sample ⟨default, .latest⟩ [18446744073709549369] =
        .ok (.string text, []) ∧ ∀ time : Timestamp, time.text ≠ text :=
  ⟨⟨_, rfl, rfl, by decide⟩, _, rfl, Timestamp.text_ne_empty⟩

end ModelSchema
