import ModelSchema.Proofs.Refusals

set_option autoImplicit false

/-!
# Members that are always there

An optional member is there with a probability that is brought between zero and one. At both ends
the words no longer matter: every sample has all of the described members, or no others than the
required ones.

## Main definitions

* `Binary64.IsAtLeastOne`, `Binary64.IsAtMostZero` — numbers from one on, and numbers up to zero.
* `FieldSchema.Filled` — every object in a value has the members that are kept, at every depth.
* `Sampler.Fills` — all samples are values of this sort.

## Main results

* `SampleOptions.presence_of_isAtLeastOne`, `SampleOptions.presence_of_isAtMostZero` — the
  probabilities at both ends.
* `Sampler.fills_of_decides` — samples keep the members for which it is decided that they are there.
* `FieldSchema.sample_withProbability` — samples do not depend on how a probability is given.
* `Sampler.extreme_probabilities_decide` — what samples are at both ends, and without a number.
-/

namespace ModelSchema

open Draw

/-! ## The ends of the range of probabilities -/

namespace Binary64

/-- A number of at least one, which may be infinite. -/
def IsAtLeastOne (p : Binary64) : Prop :=
  p = .infinite false ∨ ∃ v, p.value? = some v ∧ 1 ≤ v

/-- A number of at most zero, which may be infinite. -/
def IsAtMostZero (p : Binary64) : Prop :=
  p = .infinite true ∨ ∃ v, p.value? = some v ∧ v ≤ 0

/-- What is at least one is brought down to one. -/
lemma clampUnit_of_isAtLeastOne {p : Binary64} (h : p.IsAtLeastOne) : p.clampUnit = one := by
  obtain rfl | ⟨v, hv, hle⟩ := h
  · rfl
  cases p with
  | nan => cases hv
  | infinite negative => cases hv
  | finite negative a =>
    obtain rfl := Option.some.inj hv
    cases negative with
    | true =>
      have hnonneg := a.value_nonneg
      simp only [if_true] at hle
      linarith
    | false =>
      rw [clampUnit, if_pos (Magnitude.le_iff.2 (by simpa [Magnitude.value_one] using hle))]

/-- What is at most zero is not brought to one, and no word is below its threshold. -/
lemma clampUnit_of_isAtMostZero {p : Binary64} (h : p.IsAtMostZero) :
    p.clampUnit ≠ one ∧ p.clampUnit.threshold = 0 := by
  have hzero : zero ≠ one ∧ zero.threshold = 0 := by decide
  obtain rfl | ⟨v, hv, hle⟩ := h
  · exact hzero
  cases p with
  | nan => cases hv
  | infinite negative => cases hv
  | finite negative a =>
    obtain rfl := Option.some.inj hv
    cases negative with
    | true => exact hzero
    | false =>
      have hvalue : a.value = 0 := le_antisymm hle a.value_nonneg
      have hsignificand := Magnitude.value_eq_zero_iff.1 hvalue
      have hbelow : ¬ Magnitude.one.le a = true := by
        rw [Magnitude.le_iff, Magnitude.value_one, hvalue]
        norm_num
      rw [clampUnit, if_neg hbelow]
      constructor
      · intro he
        obtain rfl : a = .one := (Binary64.finite.inj he).2
        cases hsignificand
      · obtain ⟨-, hratio⟩ := a.ratio_spec
        rw [hvalue, zero_mul, Nat.cast_eq_zero] at hratio
        rw [threshold, Magnitude.scaled]
        dsimp only
        rw [hratio, Nat.zero_shiftLeft, Nat.zero_div]

end Binary64

namespace SampleOptions

variable {options : SampleOptions}

/-- A probability that is at least one makes optional members certain. -/
theorem presence_of_isAtLeastOne (h : options.optionalProbability.IsAtLeastOne) :
    options.presence = .one := by
  have hclamp := Binary64.clampUnit_of_isAtLeastOne h
  unfold presence
  split
  · next hnan =>
    rw [hnan] at hclamp
    cases hclamp
  · exact hclamp

/-- A probability that is at most zero makes optional members impossible. -/
theorem presence_of_isAtMostZero (h : options.optionalProbability.IsAtMostZero) :
    options.presence ≠ .one ∧ options.presence.threshold = 0 := by
  unfold presence
  split
  · next hnan =>
    rw [hnan] at h
    obtain h | ⟨_, h, -⟩ := h <;> cases h
  · exact Binary64.clampUnit_of_isAtMostZero h

end SampleOptions

/-! ## Values with the members that are kept -/

/-- Whether a value is neither an array nor an object. -/
def Json.isScalar : Json → Bool
  | .array _ | .object _ => false
  | _ => true

/-- A literal is a value without parts. -/
lemma Literal.isScalar_toJson (literal : Literal) : literal.toJson.isScalar = true := by
  cases literal <;> rfl

/-- Every object in a value of a field, at every depth and in every element, has exactly the names
of those described members that are kept, in order. -/
inductive FieldSchema.Filled (kept : FieldSchema → Bool) : FieldSchema → Json → Prop where
  | scalar {field : FieldSchema} {value : Json} (scalar : value.isScalar = true) :
      Filled kept field value
  | array {field item : FieldSchema} {values : List Json} (described : field.item = some item)
      (inside : ∀ value ∈ values, Filled kept item value) : Filled kept field (.array values)
  /-- An array whose elements are not described: none of them is an object. -/
  | bareArray {field : FieldSchema} {values : List Json} (bare : field.item = none)
      (scalars : ∀ value ∈ values, value.isScalar = true) : Filled kept field (.array values)
  | object {field : FieldSchema} {fields : List (String × FieldSchema)}
      {members : List (String × Json)} (described : field.fields = some fields)
      (names : Entries.names members = Entries.names (fields.filter fun entry => kept entry.2))
      (inside : List.Forall₂ (fun entry member => Filled kept entry.2 member.2)
        (fields.filter fun entry => kept entry.2) members) : Filled kept field (.object members)
  /-- An object whose members are not described: it has none. -/
  | bareObject {field : FieldSchema} (bare : field.fields = none) : Filled kept field (.object [])

/-- Members are the ones that are kept among those described, in order, and their values are
filled. -/
def MembersFilled (kept : FieldSchema → Bool) (fields : List (String × FieldSchema))
    (members : List (String × Json)) : Prop :=
  Entries.names members = Entries.names (fields.filter fun entry => kept entry.2) ∧
    List.Forall₂ (fun entry member => entry.2.Filled kept member.2)
      (fields.filter fun entry => kept entry.2) members

namespace MembersFilled

variable {kept : FieldSchema → Bool} {name : String} {field : FieldSchema}
    {fields : List (String × FieldSchema)} {members : List (String × Json)}

/-- A member that is kept is the first one. -/
lemma present {value : Json} (hkept : kept field = true) (hvalue : field.Filled kept value)
    (h : MembersFilled kept fields members) :
    MembersFilled kept ((name, field) :: fields) ((name, value) :: members) := by
  rw [MembersFilled,
    List.filter_cons_of_pos (p := fun entry : String × FieldSchema => kept entry.2) hkept]
  exact ⟨congrArg (name :: ·) h.1, .cons hvalue h.2⟩

/-- A member that is not kept is left out. -/
lemma missing (hkept : ¬ kept field = true) (h : MembersFilled kept fields members) :
    MembersFilled kept ((name, field) :: fields) members := by
  rw [MembersFilled,
    List.filter_cons_of_neg (p := fun entry : String × FieldSchema => kept entry.2) hkept]
  exact h

end MembersFilled

/-- All samples of fields and schemas have the members that are kept, at every depth. Nothing but a
lack of words keeps them from being drawn. -/
structure Sampler.Fills (sampler : Sampler) (kept : FieldSchema → Bool) : Prop where
  field : ∀ field : FieldSchema, Yields (field.sample sampler) (field.Filled kept)
  schema : ∀ schema : Schema,
    Yields (schema.sample sampler) ((FieldSchema.ofObject schema).Filled kept)
  schemas : ∀ (schema : Schema) (count : ℕ), Yields (schema.samples sampler count) fun values =>
    values.length = count ∧ ∀ value ∈ values, (FieldSchema.ofObject schema).Filled kept value

section Samples

variable {sampler : Sampler} {kept : FieldSchema → Bool}

/-- Whatever the words are, a member is there exactly if it is kept. -/
def Sampler.Decides (sampler : Sampler) (kept : FieldSchema → Bool) : Prop :=
  ∀ field : FieldSchema,
    Yields (if field.required then pure true else chance sampler.options.presence) (· = kept field)

/-- Where the probability is one, every member is there. -/
lemma Sampler.decides_of_certain (h : sampler.options.presence = .one) :
    sampler.Decides fun _ => true := by
  intro field
  split
  · exact .pure rfl
  · rw [chance, if_pos h]
    exact .pure rfl

/-- Where no word is below the threshold, only required members are there. -/
lemma Sampler.decides_of_impossible
    (h : sampler.options.presence ≠ .one ∧ sampler.options.presence.threshold = 0) :
    sampler.Decides FieldSchema.required := by
  intro field
  split
  · next hrequired => exact .pure hrequired.symm
  · next hrequired =>
    have hunit := sampler.options.isUnit_presence.resolve_left h.1
    rw [chance, if_neg h.1, if_pos hunit]
    refine yields_word.bind fun w _ => .pure ?_
    rw [h.2, Bool.eq_false_iff.2 hrequired]
    exact decide_eq_false (Nat.not_lt_zero _)

mutual

/-- A sample of a field has the members that are kept.

**Proof sketch.** Induction on the description. Where members are drawn, it is decided which of them
are there. -/
lemma FieldSchema.yields_filled (h : sampler.Decides kept) : (field : FieldSchema) →
    Yields (field.sample sampler) (field.Filled kept)
  | { kind, required, min, max, choices, item, fields, nullable, hidden, marked, initial } => by
    unfold FieldSchema.sample
    split
    · exact (yields_choose (List.cons_ne_nil _ _)).bind fun literal _ =>
        .pure (.scalar literal.isScalar_toJson)
    cases kind with
    | string =>
      exact (yields_letters (sampler.lengths_ordered _ _ _)).bind fun _ _ => .pure (.scalar rfl)
    | number => exact (yields_between (span_ordered _ _ _)).bind fun _ _ => .pure (.scalar rfl)
    | boolean => exact yields_bit.bind fun _ _ => .pure (.scalar rfl)
    | date => exact (yields_date sampler.now).bind fun _ _ => .pure (.scalar rfl)
    | email => exact (yields_email _ _).bind fun _ _ => .pure (.scalar rfl)
    | uuid => exact yields_uuid.bind fun _ _ => .pure (.scalar rfl)
    | array =>
      refine (yields_between (sampler.lengths_ordered _ _ _)).bind fun length _ => ?_
      refine ((yields_itemFilled h item).times _).bind fun values hvalues => .pure ?_
      cases item with
      | none => exact .bareArray rfl hvalues.2
      | some item => exact .array rfl hvalues.2
    | object =>
      refine (yields_fieldsFilled h fields).imp fun value hvalue => ?_
      cases fields with
      | none =>
        obtain rfl : value = .object [] := hvalue
        exact .bareObject rfl
      | some fields =>
        obtain ⟨members, rfl, hnames, hinside⟩ := hvalue
        exact .object rfl hnames hinside

/-- A sample of an element has the members that are kept, if it is described; otherwise it has
none. -/
lemma yields_itemFilled (h : sampler.Decides kept) : (item : Option FieldSchema) →
    Yields (itemSample sampler item) fun value =>
      match item with
      | none => value.isScalar = true
      | some item => item.Filled kept value
  | none => .pure rfl
  | some item => item.yields_filled h

/-- A sample of an object has the members that are kept, if they are described; otherwise it has
none. -/
lemma yields_fieldsFilled (h : sampler.Decides kept) : (fields :
    Option (List (String × FieldSchema))) →
    Yields (fieldsSample sampler fields) fun value =>
      match fields with
      | none => value = .object []
      | some fields => ∃ members, value = .object members ∧ MembersFilled kept fields members
  | none => .pure rfl
  | some fields => (yields_membersFilled h fields).bind fun members hm => .pure ⟨members, rfl, hm⟩

/-- Samples of members are those of the members that are kept. -/
lemma yields_membersFilled (h : sampler.Decides kept) : (fields : List (String × FieldSchema)) →
    Yields (membersSample sampler fields) (MembersFilled kept fields)
  | [] => .pure ⟨rfl, .nil⟩
  | (name, field) :: fields => by
    rw [membersSample_cons]
    refine (h field).bind fun isThere hthere => ?_
    subst hthere
    split
    · next hkept =>
      refine (field.yields_filled h).bind fun value hvalue => ?_
      exact (yields_membersFilled h fields).bind fun members hm => .pure (.present hkept hvalue hm)
    · next hkept => exact (yields_membersFilled h fields).imp fun members hm => .missing hkept hm

end

/-- All samples keep the members for which it is decided that they are there. -/
theorem Sampler.fills_of_decides (h : sampler.Decides kept) : sampler.Fills kept := by
  have hschema (schema : Schema) :
      Yields (schema.sample sampler) ((FieldSchema.ofObject schema).Filled kept) :=
    (yields_membersFilled h schema).bind fun members hmembers =>
      .pure (.object rfl hmembers.1 hmembers.2)
  exact ⟨FieldSchema.yields_filled h, hschema, fun schema count => (hschema schema).times count⟩

/-! ## Other ways to give the same probability -/

/-- The same settings, but for the probability of optional members. -/
def Sampler.withProbability (sampler : Sampler) (p : Binary64) : Sampler :=
  { sampler with options := { sampler.options with optionalProbability := p } }

/-- The same settings with the default probability. -/
def Sampler.usual (sampler : Sampler) : Sampler :=
  sampler.withProbability SampleOptions.defaultProbability

variable {p : Binary64}

mutual

/-- Samples do not depend on how a probability is given: neither the values nor the words that are
left. -/
lemma FieldSchema.sample_withProbability
    (h : (sampler.withProbability p).options.presence = sampler.options.presence) :
    (field : FieldSchema) → field.sample (sampler.withProbability p) = field.sample sampler
  | { kind, required, min, max, choices, item, fields, nullable, hidden, marked, initial } => by
    unfold FieldSchema.sample
    rw [itemSample_withProbability h item, fieldsSample_withProbability h fields]
    rfl

/-- The samples of an element are those at any probability of the same presence. -/
lemma itemSample_withProbability
    (h : (sampler.withProbability p).options.presence = sampler.options.presence) :
    (item : Option FieldSchema) →
    itemSample (sampler.withProbability p) item = itemSample sampler item
  | none => rfl
  | some item => item.sample_withProbability h

/-- The samples of an object are those at any probability of the same presence. -/
lemma fieldsSample_withProbability
    (h : (sampler.withProbability p).options.presence = sampler.options.presence) :
    (fields : Option (List (String × FieldSchema))) →
      fieldsSample (sampler.withProbability p) fields = fieldsSample sampler fields
  | none => rfl
  | some fields => by rw [fieldsSample, fieldsSample, membersSample_withProbability h fields]

/-- The samples of members are those at any probability of the same presence. -/
lemma membersSample_withProbability
    (h : (sampler.withProbability p).options.presence = sampler.options.presence) :
    (fields : List (String × FieldSchema)) →
      membersSample (sampler.withProbability p) fields = membersSample sampler fields
  | [] => rfl
  | (name, field) :: fields => by
    rw [membersSample_cons, membersSample_cons, h, field.sample_withProbability h,
      membersSample_withProbability h fields]

end

end Samples

/-- What is not a number asks for the default probability. -/
lemma SampleOptions.presence_of_nan {options : SampleOptions}
    (h : options.optionalProbability = .nan) :
    { options with optionalProbability := defaultProbability }.presence = options.presence := by
  have hdefault : defaultProbability.clampUnit = defaultProbability := by decide
  rw [presence, presence, h]
  exact hdefault

/-- **Extreme probabilities decide which members are there.** Whatever the schema, the present and
the words are: with a probability of one or more, every object in a sample, at every depth and in
every element, has exactly the described names in order; with a probability of zero or less, it has
exactly those that are required, in order; and with one that is not a number, the samples are those
of the default probability, and the same words are left.

**Proof sketch.** A probability is brought between zero and one first. One is certain without a
word, and no word is below the threshold of zero. -/
theorem Sampler.extreme_probabilities_decide (sampler : Sampler) :
    (sampler.options.optionalProbability.IsAtLeastOne → sampler.Fills fun _ => true) ∧
    (sampler.options.optionalProbability.IsAtMostZero → sampler.Fills FieldSchema.required) ∧
    (sampler.options.optionalProbability = .nan →
      (∀ (field : FieldSchema) words,
        field.sample sampler words = field.sample sampler.usual words) ∧
      ∀ (schema : Schema) words, schema.sample sampler words = schema.sample sampler.usual words ∧
        ∀ count,
          schema.samples sampler count words = schema.samples sampler.usual count words) := by
  refine ⟨fun h => ?_, fun h => ?_, fun h => ?_⟩
  · exact fills_of_decides (decides_of_certain (SampleOptions.presence_of_isAtLeastOne h))
  · exact fills_of_decides (decides_of_impossible (SampleOptions.presence_of_isAtMostZero h))
  · have hsame : sampler.usual.options.presence = sampler.options.presence :=
      SampleOptions.presence_of_nan h
    have hschema (schema : Schema) : schema.sample sampler.usual = schema.sample sampler := by
      rw [usual, Schema.sample, Schema.sample, membersSample_withProbability hsame]
    refine ⟨fun field words => ?_, fun schema words => ⟨?_, fun count => ?_⟩⟩
    · rw [usual, field.sample_withProbability hsame]
    · rw [hschema]
    · rw [Schema.samples, Schema.samples, hschema]

/-! ### A household at both ends -/

namespace Household

/-- A person, who need not have a pet, and pets, which need not have a name. -/
def members : Schema :=
  [("person", { kind := .boolean, required := true }),
    ("pets",
      .ofArray (.ofObject
        [("name", { kind := .boolean }), ("tame", { kind := .boolean, required := true })]))]

/-- Sampling with a probability. -/
def sampler (p : Binary64) : Sampler :=
  { options := { optionalProbability := p, arrayLength := (1, 1) }, now := .epoch }

/-- A sample with all members. -/
def full : Json :=
  .object [("person", .bool false),
    ("pets", .array [.object [("name", .bool true), ("tame", .bool false)]])]

/-- A sample with the required members. -/
def bare : Json :=
  .object [("person", .bool false)]

end Household

/-- With an infinite probability the pet has a name, with a negative one there is no pet, and
without a number the default decides. -/
theorem Sampler.extreme_probabilities_decide_household :
    (Household.members.sample (Household.sampler (.infinite false)) [0, 7, 4294967295, 0] =
      .ok (Household.full, []) ∧
      (FieldSchema.ofObject Household.members).Filled (fun _ => true) Household.full) ∧
    (Household.members.sample (Household.sampler (.finite true .one)) [0, 0] =
      .ok (Household.bare, []) ∧
      (FieldSchema.ofObject Household.members).Filled FieldSchema.required Household.bare) ∧
    ∀ words, Household.members.sample (Household.sampler .nan) words =
      Household.members.sample (Household.sampler SampleOptions.defaultProbability) words := by
  have hfull : Household.members.sample (Household.sampler (.infinite false))
      [0, 7, 4294967295, 0] = .ok (Household.full, []) := by rfl
  have hbare : Household.members.sample (Household.sampler (.finite true .one)) [0, 0] =
      .ok (Household.bare, []) := by rfl
  have hzero : (Binary64.finite true .one).IsAtMostZero :=
    .inr ⟨_, rfl, by norm_num [Binary64.Magnitude.value_one]⟩
  obtain ⟨certain, -, -⟩ := extreme_probabilities_decide (Household.sampler (.infinite false))
  obtain ⟨-, impossible, -⟩ := extreme_probabilities_decide (Household.sampler (.finite true .one))
  obtain ⟨-, -, usual⟩ := extreme_probabilities_decide (Household.sampler .nan)
  refine ⟨⟨hfull, ?_⟩, ⟨hbare, ?_⟩, fun words => ((usual rfl).2 _ words).1⟩
  · exact Yields.of_eq_ok ((certain (.inl rfl)).schema Household.members) hfull
  · exact Yields.of_eq_ok ((impossible hzero).schema Household.members) hbare

end ModelSchema
