import ModelSchema.Proofs.Fitting
import ModelSchema.Proofs.Inside
import ModelSchema.Proofs.Reaching

set_option autoImplicit false

/-!
# Every fitting value is sampled

With the default probability of optional fields, the samples of a field are exactly the values that
fit it: whatever fits at every depth is made by some words.

## Main definitions

* `FieldSchema.IsSample` — some words make a value of a field.
* `FieldSchema.HasCountedChoices` — the literals of every field can be counted by a word.
* `WordRange.ends`, `FieldSchema.SamplesEnds` — the ends of ranges, and the samples that show each
  of them.

## Main results

* `Draw.reaches_letters`, `Draw.reaches_email`, `Draw.reaches_date`, `Draw.reaches_uuid` — every
  text of a single kind.
* `FieldSchema.exists_fits` — some value fits.
* `FieldSchema.reaches_sample` — every value that fits is reached.
* `FieldSchema.samples_are_all_that_fit` — the samples are the values that fit.
-/

namespace ModelSchema

/-! ## Texts of single kinds -/

namespace Draw

/-- Every letter is drawn. -/
lemma reaches_letter {c : Char} (h : c.isAlpha = true) : Reaches letter c := by
  have drawn {i : ℕ} (hi : i < 52)
      (hc : (if i < 26 then Char.ofNat (97 + i) else Char.ofNat (65 + (i - 26))) = c) :
      Reaches letter c := by
    refine (reaches_below (Nat.le_refl 64) (by decide) hi).bind ?_
    rw [hc]
    exact .pure c
  rcases Bool.or_eq_true_iff.1 h with hupper | hlower
  · have hvals : 'A'.val ≤ c.val ∧ c.val ≤ 'Z'.val := of_decide_eq_true hupper
    have hrange : 65 ≤ c.toNat ∧ c.toNat ≤ 90 :=
      hvals.imp UInt32.le_iff_toNat_le.1 UInt32.le_iff_toNat_le.1
    refine drawn (i := c.toNat - 65 + 26) (by omega) ?_
    rw [if_neg (by omega), Nat.add_sub_cancel, Nat.add_sub_cancel' hrange.1, Char.ofNat_toNat]
  · obtain ⟨hlo, hhi⟩ := Bool.and_eq_true_iff.1 hlower
    have hvals : 'a'.val ≤ c.val ∧ c.val ≤ 'z'.val := ⟨of_decide_eq_true hlo, of_decide_eq_true hhi⟩
    have hrange : 97 ≤ c.toNat ∧ c.toNat ≤ 122 :=
      hvals.imp UInt32.le_iff_toNat_le.1 UInt32.le_iff_toNat_le.1
    refine drawn (i := c.toNat - 97) (by omega) ?_
    rw [if_pos (by omega), Nat.add_sub_cancel' hrange.1, Char.ofNat_toNat]

/-- Every number of a range is drawn. -/
lemma reaches_between_of_holds {range : WordRange} {n : ℕ} (h : range.Holds n) :
    ∃ w : UInt64, w.toNat = n ∧ Reaches (between range.1 range.2) w := by
  obtain ⟨hlo, hhi⟩ := h
  have hword : (UInt64.ofNat n).toNat = n :=
    UInt64.toNat_ofNat_of_lt' (Nat.lt_of_le_of_lt hhi range.2.toNat_lt)
  refine ⟨UInt64.ofNat n, hword, reaches_between ?_ ?_⟩
  · rwa [UInt64.le_iff_toNat_le, hword]
  · rwa [UInt64.le_iff_toNat_le, hword]

/-- Letters are drawn, as many as any number of the range. -/
lemma reaches_letters {range : WordRange} {cs : List Char} (h : IsLetters range cs) :
    Reaches (letters range) cs := by
  obtain ⟨hletters, hlength⟩ := h
  obtain ⟨length, hvalue, hdrawn⟩ := reaches_between_of_holds hlength
  refine hdrawn.bind ?_
  rw [hvalue]
  exact .times fun c hc => reaches_letter (hletters c hc)

/-- Every address is drawn. -/
lemma reaches_email {range : WordRange} {ending text : String} (h : IsEmail range ending text) :
    Reaches (email range ending) text := by
  obtain ⟨name, host, hname, hhost, rfl⟩ := h
  unfold email
  rw [word_max_comm range.2]
  exact (reaches_letters hname).bind ((reaches_letters hhost).bind (.pure _))

/-- Every date is drawn, and so is the empty text where a date may be missing. -/
lemma reaches_date {last : Instant} {text : String} (h : IsDate last text) :
    Reaches (date last) text := by
  cases h with
  | @timed time not_before not_after covered =>
    have hdrawn := reaches_instant not_before not_after
    have hnonneg : 0 ≤ time.millis := le_trans (by decide) not_before
    obtain ⟨drawn, hofMillis, htext⟩ := Instant.exists_ofMillis? hnonneg covered
    rw [hofMillis] at hdrawn
    rw [← htext]
    exact hdrawn.bind (.pure _)
  | blank beyond => exact (reaches_none beyond).bind (.pure _)

/-! ### Identifiers -/

/-- Every hexadecimal digit is that of a number below sixteen. -/
lemma exists_digitChar {c : Char} (h : c ∈ hexDigits) : ∃ d < 16, d.digitChar = c := by
  have digits : hexDigits = (List.range 16).map Nat.digitChar := rfl
  rw [digits] at h
  obtain ⟨d, hd, rfl⟩ := List.mem_map.1 h
  exact ⟨d, List.mem_range.1 hd, rfl⟩

section Places

variable {places cs : List Char}

/-- Two digits are those of a byte. -/
lemma exists_byte (h : List.Forall₂ FillsPlace ('x' :: 'x' :: places) cs) :
    ∃ b < 256, ∃ rest, cs = hexByte b ++ rest ∧ List.Forall₂ FillsPlace places rest := by
  obtain ⟨high, _, hhigh, hlast, rfl⟩ := List.forall₂_cons_left_iff.1 h
  obtain ⟨low, rest, hlow, hrest, rfl⟩ := List.forall₂_cons_left_iff.1 hlast
  obtain ⟨i, hi, rfl⟩ := exists_digitChar hhigh
  obtain ⟨j, hj, rfl⟩ := exists_digitChar hlow
  refine ⟨i * 16 + j, by omega, rest, ?_, hrest⟩
  rw [hexByte, show (i * 16 + j) / 16 = i by omega, show (i * 16 + j) % 16 = j by omega]
  rfl

/-- A four and a digit are those of a byte with the mark of the version. -/
lemma exists_versionByte (h : List.Forall₂ FillsPlace ('4' :: 'x' :: places) cs) :
    ∃ b < 256, ∃ rest, cs = hexByte (64 + b % 16) ++ rest ∧
      List.Forall₂ FillsPlace places rest := by
  obtain ⟨_, _, rfl, hlast, rfl⟩ := List.forall₂_cons_left_iff.1 h
  obtain ⟨low, rest, hlow, hrest, rfl⟩ := List.forall₂_cons_left_iff.1 hlast
  obtain ⟨j, hj, rfl⟩ := exists_digitChar hlow
  refine ⟨j, by omega, rest, ?_, hrest⟩
  rw [hexByte, show (64 + j % 16) / 16 = 4 by omega, show (64 + j % 16) % 16 = j by omega]
  rfl

/-- A digit from eight to eleven and another one are those of a byte with the mark of the
variant. -/
lemma exists_variantByte (h : List.Forall₂ FillsPlace ('y' :: 'x' :: places) cs) :
    ∃ b < 256, ∃ rest, cs = hexByte (128 + b % 64) ++ rest ∧
      List.Forall₂ FillsPlace places rest := by
  have digits : ['8', '9', 'a', 'b'] = (List.range 4).map fun i => (8 + i).digitChar := rfl
  obtain ⟨high, _, hhigh, hlast, rfl⟩ := List.forall₂_cons_left_iff.1 h
  obtain ⟨low, rest, hlow, hrest, rfl⟩ := List.forall₂_cons_left_iff.1 hlast
  replace hhigh : high ∈ ['8', '9', 'a', 'b'] := hhigh
  rw [digits] at hhigh
  obtain ⟨i, hi, rfl⟩ := List.mem_map.1 hhigh
  rw [List.mem_range] at hi
  obtain ⟨j, hj, rfl⟩ := exists_digitChar hlow
  refine ⟨i * 16 + j, by omega, rest, ?_, hrest⟩
  rw [hexByte, show (128 + (i * 16 + j) % 64) / 16 = 8 + i by omega,
    show (128 + (i * 16 + j) % 64) % 16 = j by omega]
  rfl

/-- A hyphen fills only its own place. -/
lemma exists_hyphen (h : List.Forall₂ FillsPlace ('-' :: places) cs) :
    ∃ rest, cs = '-' :: rest ∧ List.Forall₂ FillsPlace places rest := by
  obtain ⟨_, rest, rfl, hrest, rfl⟩ := List.forall₂_cons_left_iff.1 h
  exact ⟨rest, rfl, hrest⟩

end Places

/-- Every identifier is that of sixteen bytes. -/
lemma exists_uuidChars {cs : List Char} (h : List.Forall₂ FillsPlace uuidPlaces cs) :
    ∃ bytes : List ℕ, bytes.length = 16 ∧ (∀ b ∈ bytes, b < 256) ∧ uuidChars bytes = cs := by
  obtain ⟨b0, h0, c0, rfl, r0⟩ := exists_byte h
  obtain ⟨b1, h1, c1, rfl, r1⟩ := exists_byte r0
  obtain ⟨b2, h2, c2, rfl, r2⟩ := exists_byte r1
  obtain ⟨b3, h3, c3, rfl, r3⟩ := exists_byte r2
  obtain ⟨c4, rfl, r4⟩ := exists_hyphen r3
  obtain ⟨b4, h4, c5, rfl, r5⟩ := exists_byte r4
  obtain ⟨b5, h5, c6, rfl, r6⟩ := exists_byte r5
  obtain ⟨c7, rfl, r7⟩ := exists_hyphen r6
  obtain ⟨b6, h6, c8, rfl, r8⟩ := exists_versionByte r7
  obtain ⟨b7, h7, c9, rfl, r9⟩ := exists_byte r8
  obtain ⟨c10, rfl, r10⟩ := exists_hyphen r9
  obtain ⟨b8, h8, c11, rfl, r11⟩ := exists_variantByte r10
  obtain ⟨b9, h9, c12, rfl, r12⟩ := exists_byte r11
  obtain ⟨c13, rfl, r13⟩ := exists_hyphen r12
  obtain ⟨b10, h10, c14, rfl, r14⟩ := exists_byte r13
  obtain ⟨b11, h11, c15, rfl, r15⟩ := exists_byte r14
  obtain ⟨b12, h12, c16, rfl, r16⟩ := exists_byte r15
  obtain ⟨b13, h13, c17, rfl, r17⟩ := exists_byte r16
  obtain ⟨b14, h14, c18, rfl, r18⟩ := exists_byte r17
  obtain ⟨b15, h15, c19, rfl, r19⟩ := exists_byte r18
  obtain rfl : c19 = [] := List.forall₂_nil_left_iff.1 r19
  refine ⟨[b0, b1, b2, b3, b4, b5, b6, b7, b8, b9, b10, b11, b12, b13, b14, b15], rfl, ?_, rfl⟩
  simp only [List.forall_mem_cons, h0, h1, h2, h3, h4, h5, h6, h7, h8, h9, h10, h11, h12, h13, h14,
    h15, true_and]
  simp

/-- Every version 4 identifier is drawn. -/
lemma reaches_uuid {text : String} (h : IsUuid text) : Reaches uuid text := by
  obtain ⟨bytes, hlength, hbytes, hchars⟩ := exists_uuidChars h
  have hdrawn : Reaches (times bytes.length byte) bytes :=
    .times fun b hb => reaches_byte (hbytes b hb)
  rw [hlength] at hdrawn
  unfold uuid
  refine hdrawn.bind ?_
  rw [hchars, String.ofList_toList]
  exact .pure text

end Draw

/-! ## Fields -/

/-- The literals of every field, at any depth, can be counted by a word, as those of every list in
memory can. -/
def FieldSchema.HasCountedChoices (field : FieldSchema) : Prop :=
  field.Everywhere fun inner => ∀ literals, inner.choices = some literals → literals.length < 2 ^ 64

section Fields

open Draw

variable {sampler : Sampler}

/-- Every choice of members that fits an object is drawn, if the values of its members are.

**Proof sketch.** Induction on the descriptions. A member that is required is there without a draw,
and any other one is drawn to be there or to be missing. -/
lemma reaches_membersSample
    (hdefault : sampler.options.optionalProbability = SampleOptions.defaultProbability)
    {fields : List (String × FieldSchema)} {members : List (String × Json)}
    (each : ∀ field ∈ fields, ∀ value, field.2.Fits sampler value →
        Reaches (field.2.sample sampler) value) (h : MembersFit sampler fields members) :
    Reaches (membersSample sampler fields) members := by
  have hpresence : sampler.options.presence = SampleOptions.defaultProbability := by
    rw [SampleOptions.presence, hdefault]
    decide
  have drawn (b : Bool) : Reaches (chance sampler.options.presence) b := by
    rw [hpresence]
    exact reaches_chance_default b
  induction fields generalizing members with
  | nil =>
    cases h
    exact .pure []
  | cons field fields ih =>
    obtain ⟨name, field⟩ := field
    obtain ⟨hfield, hfields⟩ := List.forall_mem_cons.1 each
    rw [membersSample_cons]
    cases h with
    | present fits others =>
      have there :
          Reaches (if field.required then Pure.pure true else chance sampler.options.presence)
            true := by
        split
        · exact .pure true
        · exact drawn true
      refine there.bind ?_
      exact (hfield _ fits).bind ((ih hfields others).bind (.pure _))
    | missing optional others =>
      have away :
          Reaches (if field.required then Pure.pure true else chance sampler.options.presence)
            false := by
        rw [optional]
        exact drawn false
      exact away.bind (ih hfields others)

/-- Every value that fits a field is drawn.

**Proof sketch.** Induction on the description. The value obeys the rule of its kind, and each draw
of that kind reaches what the rule admits; elements and members are reached one after another. -/
theorem FieldSchema.reaches_sample
    (hdefault : sampler.options.optionalProbability = SampleOptions.defaultProbability)
    {field : FieldSchema} (hcounted : field.HasCountedChoices) {value : Json}
    (h : field.Fits sampler value) : Reaches (field.sample sampler) value := by
  induction field using FieldSchema.induction generalizing value with
  | step field ihItem ihMembers =>
    obtain ⟨hchoices, hitem, hmembers⟩ := everywhere_iff.1 hcounted
    cases h with
    | choice restricted mem =>
      rw [sample_of_choices sampler restricted (List.ne_nil_of_mem mem)]
      exact (reaches_choose mem (hchoices _ restricted)).bind (.pure _)
    | string free kind letters =>
      rw [sample_of_free sampler free, kind]
      exact (reaches_letters letters).bind (.pure _)
    | number free kind range =>
      obtain ⟨w, rfl, hdrawn⟩ := reaches_between_of_holds range
      rw [sample_of_free sampler free, kind]
      exact hdrawn.bind (.pure _)
    | boolean free kind b =>
      rw [sample_of_free sampler free, kind]
      exact (reaches_bit b).bind (.pure _)
    | date free kind form =>
      rw [sample_of_free sampler free, kind]
      exact (reaches_date form).bind (.pure _)
    | email free kind form =>
      rw [sample_of_free sampler free, kind]
      exact (reaches_email form).bind (.pure _)
    | uuid free kind form =>
      rw [sample_of_free sampler free, kind]
      exact (reaches_uuid form).bind (.pure _)
    | array free kind described length inside =>
      obtain ⟨w, hw, hdrawn⟩ := reaches_between_of_holds length
      rw [sample_of_free sampler free, kind, described]
      refine hdrawn.bind ?_
      rw [hw]
      exact (Reaches.times fun value hv =>
        ihItem _ described (hitem _ described) (inside value hv)).bind (.pure _)
    | bareArray free kind bare length nulls =>
      obtain ⟨w, hw, hdrawn⟩ := reaches_between_of_holds length
      rw [sample_of_free sampler free, kind, bare]
      refine hdrawn.bind ?_
      rw [hw]
      exact (Reaches.times fun value hv => by rw [nulls value hv]; exact .pure _).bind (.pure _)
    | object free kind described inside =>
      rw [sample_of_free sampler free, kind, described]
      refine (reaches_membersSample hdefault (fun member hm value hfits => ?_) inside).bind
        (.pure _)
      exact ihMembers _ described member hm (hmembers _ described member hm) hfits
    | bareObject free kind bare =>
      rw [sample_of_free sampler free, kind, bare]
      exact .pure _

/-! ## Ends of ranges -/

/-- Both ends of a range. -/
def WordRange.ends (range : WordRange) : List ℕ :=
  [range.1.toNat, range.2.toNat]

/-- A range with its second end raised to the first one, if it is below it. -/
def WordRange.raised (range : WordRange) : WordRange :=
  (range.1, Max.max range.1 range.2)

/-- The raised ends of a range are in order. -/
lemma WordRange.raised_ordered (range : WordRange) : range.raised.1 ≤ range.raised.2 :=
  word_le_max_left _ _

/-- A range holds its ends when they are in order. -/
lemma WordRange.holds_of_mem_ends {range : WordRange} (h : range.1 ≤ range.2) {n : ℕ}
    (hn : n ∈ range.ends) : range.Holds n := by
  rw [UInt64.le_iff_toNat_le] at h
  rcases List.mem_pair.1 hn with rfl | rfl
  · exact ⟨Nat.le_refl _, h⟩
  · exact ⟨h, Nat.le_refl _⟩

/-- There are as many letters as any number of a range. -/
lemma exists_isLetters {range : WordRange} {n : ℕ} (h : range.Holds n) :
    ∃ cs : List Char, cs.length = n ∧ IsLetters range cs := by
  refine ⟨List.replicate n 'a', List.length_replicate, fun c hc => ?_, ?_⟩
  · rw [List.eq_of_mem_replicate hc]
    rfl
  · rwa [List.length_replicate]

/-- There are arrays of any length of the range of their lengths, if there is a value for an
element. -/
lemma exists_array_fits {field : FieldSchema} (free : field.isEnum = false)
    (kind : field.kind = .array)
    (each : ∀ item, field.item = some item → ∃ value, item.Fits sampler value) {n : ℕ}
    (h : (sampler.lengths field.min field.max sampler.options.arrayLength).Holds n) :
    ∃ values : List Json, values.length = n ∧ field.Fits sampler (.array values) := by
  have repeated {value v : Json} (hv : v ∈ List.replicate n value) : v = value :=
    List.eq_of_mem_replicate hv
  rcases hitem : field.item with _ | item
  · refine ⟨List.replicate n .null, List.length_replicate,
      .bareArray free kind hitem ?_ fun _ => repeated⟩
    rwa [List.length_replicate]
  · obtain ⟨value, hvalue⟩ := each item hitem
    refine ⟨List.replicate n value, List.length_replicate, .array free kind hitem ?_ fun v hv => ?_⟩
    · rwa [List.length_replicate]
    · rw [repeated hv]
      exact hvalue

/-- There are members for an object, all of them present, if there is a value for each. -/
lemma exists_membersFit {fields : List (String × FieldSchema)}
    (each : ∀ field ∈ fields, ∃ value, field.2.Fits sampler value) :
    ∃ members, MembersFit sampler fields members := by
  induction fields with
  | nil => exact ⟨[], .nil⟩
  | cons field fields ih =>
    obtain ⟨⟨value, hvalue⟩, hfields⟩ := List.forall_mem_cons.1 each
    obtain ⟨members, hmembers⟩ := ih hfields
    exact ⟨(field.1, value) :: members, .present hvalue hmembers⟩

/-- Members that fit the descriptions of two lists in a row are those that fit the first one and
then those that fit the second one. -/
lemma MembersFit.append {fields fields' : List (String × FieldSchema)}
    {members members' : List (String × Json)} (h : MembersFit sampler fields members)
    (h' : MembersFit sampler fields' members') :
    MembersFit sampler (fields ++ fields') (members ++ members') := by
  induction fields generalizing members with
  | nil =>
    cases h
    exact h'
  | cons field fields ih =>
    cases h with
    | present fits others => exact .present fits (ih others)
    | missing optional others => exact .missing optional (ih others)

/-- Some value fits a field, whatever its description is. -/
theorem FieldSchema.exists_fits (sampler : Sampler) (field : FieldSchema) :
    ∃ value, field.Fits sampler value := by
  induction field using FieldSchema.induction with
  | step field ihItem ihMembers =>
    have least {range : WordRange} (h : range.1 ≤ range.2) : range.Holds range.1.toNat :=
      WordRange.holds_of_mem_ends h List.mem_cons_self
    by_cases free : field.isEnum = false
    · cases kind : field.kind with
      | string =>
        obtain ⟨cs, -, hcs⟩ := exists_isLetters (least (sampler.lengths_ordered _ _ _))
        exact ⟨_, .string free kind hcs⟩
      | number => exact ⟨_, .number free kind (least (span_ordered _ _ _))⟩
      | boolean => exact ⟨_, .boolean free kind true⟩
      | date => exact ⟨_, .date free kind (.timed (Int.le_refl _) (le_max_right _ _) (by decide))⟩
      | uuid =>
        have zeros : List.Forall₂ FillsPlace uuidPlaces (uuidChars (List.replicate 16 0)) :=
          forall₂_uuidChars rfl (by simp)
        rw [← String.toList_ofList (l := uuidChars _)] at zeros
        exact ⟨_, .uuid free kind zeros⟩
      | email =>
        obtain ⟨cs, -, hcs⟩ := exists_isLetters (least (WordRange.raised_ordered _))
        exact ⟨_, .email free kind ⟨cs, cs, hcs, hcs, rfl⟩⟩
      | array =>
        obtain ⟨values, -, hvalues⟩ :=
          exists_array_fits free kind ihItem (least (sampler.lengths_ordered _ _ _))
        exact ⟨_, hvalues⟩
      | object =>
        rcases hfields : field.fields with _ | fields
        · exact ⟨_, .bareObject free kind hfields⟩
        · obtain ⟨members, hmembers⟩ := exists_membersFit (ihMembers fields hfields)
          exact ⟨_, .object free kind hfields hmembers⟩
    · unfold FieldSchema.isEnum at free
      split at free
      · next literal others hchoices => exact ⟨_, .choice hchoices List.mem_cons_self⟩
      · exact absurd rfl free

/-! ## Samples -/

/-- A value is a sample of a field: some words make it, and it takes all of them. -/
def FieldSchema.IsSample (sampler : Sampler) (field : FieldSchema) (value : Json) : Prop :=
  ∃ words, field.sample sampler words = .ok (value, [])

/-- Some samples show each literal, both ends of each range, and each optional member being there
and missing. -/
structure FieldSchema.SamplesEnds (sampler : Sampler) (field : FieldSchema) : Prop where
  choice : ∀ literals, field.choices = some literals → ∀ literal ∈ literals,
    field.IsSample sampler literal.toJson
  string : field.isEnum = false → field.kind = .string →
    ∀ n ∈ (sampler.lengths field.min field.max sampler.options.stringLength).ends,
      ∃ letters, letters.length = n ∧ field.IsSample sampler (.string (String.ofList letters))
  number : field.isEnum = false → field.kind = .number →
    ∀ n ∈ (span field.min field.max sampler.options.numbers).ends,
      field.IsSample sampler (.number n)
  date : field.isEnum = false → field.kind = .date →
    ∀ millis ∈ [Timestamp.first.millis,
        Min.min (Max.max sampler.now.millis Timestamp.first.millis) Instant.lastMillis],
      ∃ time : Timestamp, time.millis = millis ∧ field.IsSample sampler (.string time.text)
  email : field.isEnum = false → field.kind = .email →
    ∀ n ∈ sampler.options.emailPartLength.raised.ends,
    ∀ m ∈ sampler.options.emailPartLength.raised.ends,
      ∃ name host, name.length = n ∧ host.length = m ∧
        field.IsSample sampler (.string (Text.lowercase
          (String.ofList (name ++ '@' :: (host ++ '.' :: sampler.options.emailEnding.toList)))))
  array : field.isEnum = false → field.kind = .array →
    ∀ n ∈ (sampler.lengths field.min field.max sampler.options.arrayLength).ends,
      ∃ values, values.length = n ∧ field.IsSample sampler (.array values)
  /-- The same members before and after an optional one go with it and without it. -/
  member : field.isEnum = false → field.kind = .object →
    ∀ before name inner after, field.fields = some (before ++ (name, inner) :: after) →
    inner.required = false →
      ∃ members value members', MembersFit sampler before members ∧ inner.Fits sampler value ∧
        MembersFit sampler after members' ∧
        field.IsSample sampler (.object (members ++ (name, value) :: members')) ∧
        field.IsSample sampler (.object (members ++ members'))

namespace FieldSchema

variable {field : FieldSchema}

/-- What is reached is a sample. -/
lemma isSample_of_reaches {value : Json} (h : Reaches (field.sample sampler) value) :
    field.IsSample sampler value := by
  obtain ⟨words, hwords⟩ := h
  exact ⟨words, by simpa using hwords []⟩

/-- Where every value that fits is a sample, the samples show the ends of all ranges.

**Proof sketch.** The ends of a range belong to it, as they are never the wrong way round; and there
is some value for everything else in the sample. -/
lemma samplesEnds (sample : ∀ value, field.Fits sampler value → field.IsSample sampler value) :
    field.SamplesEnds sampler where
  choice literals restricted literal mem := sample _ (.choice restricted mem)
  string free kind n hn := by
    have hholds := WordRange.holds_of_mem_ends (sampler.lengths_ordered _ _ _) hn
    obtain ⟨letters, hlength, hletters⟩ := exists_isLetters hholds
    exact ⟨letters, hlength, sample _ (.string free kind hletters)⟩
  number free kind n hn :=
    sample _ (.number free kind (WordRange.holds_of_mem_ends (span_ordered _ _ _) hn))
  date free kind millis hmillis := by
    have hfirst : Timestamp.first.millis = 1577836800000 := firstMillis_eq.symm
    have hlast : Instant.lastMillis = 8210266876799999 := rfl
    have hrange : Timestamp.first.millis ≤ millis ∧
        millis ≤ Max.max sampler.now.millis Timestamp.first.millis ∧
        millis ≤ Instant.lastMillis := by
      rcases List.mem_pair.1 hmillis with rfl | rfl <;> omega
    have hnonneg : 0 ≤ millis := by omega
    obtain ⟨time, rfl⟩ := Instant.exists_millis_eq hnonneg hrange.2.2
    exact ⟨time, rfl, sample _ (.date free kind (.timed hrange.1 hrange.2.1 hrange.2.2))⟩
  email free kind n hn m hm := by
    have hordered := sampler.options.emailPartLength.raised_ordered
    obtain ⟨name, hn, hname⟩ := exists_isLetters (WordRange.holds_of_mem_ends hordered hn)
    obtain ⟨host, hm, hhost⟩ := exists_isLetters (WordRange.holds_of_mem_ends hordered hm)
    exact ⟨name, host, hn, hm, sample _ (.email free kind ⟨name, host, hname, hhost, rfl⟩)⟩
  array free kind n hn := by
    have hholds := WordRange.holds_of_mem_ends (sampler.lengths_ordered _ _ _) hn
    obtain ⟨values, hlength, hvalues⟩ :=
      exists_array_fits free kind (fun item _ => item.exists_fits sampler) hholds
    exact ⟨values, hlength, sample _ hvalues⟩
  member free kind before name inner after described optional := by
    obtain ⟨members, hmembers⟩ :=
      exists_membersFit fun field (_ : field ∈ before) => field.2.exists_fits sampler
    obtain ⟨members', hmembers'⟩ :=
      exists_membersFit fun field (_ : field ∈ after) => field.2.exists_fits sampler
    obtain ⟨value, hvalue⟩ := inner.exists_fits sampler
    refine ⟨members, value, members', hmembers, hvalue, hmembers', sample _ ?_, sample _ ?_⟩
    · exact .object free kind described (hmembers.append (.present hvalue hmembers'))
    · exact .object free kind described (hmembers.append (.missing optional hmembers'))

/-- **The samples of a field are all values that fit it.** Whatever the description, the present and
the settings are, as long as an optional field is there with the default probability: a value is
made of some words exactly when it fits at every depth. In particular there are samples for every
literal, for both ends of every range, and for each optional member being there and missing.

**Proof sketch.** A sample fits, and what fits is reached by a draw for each of its parts. -/
theorem samples_are_all_that_fit (sampler : Sampler) (field : FieldSchema)
    (hdefault : sampler.options.optionalProbability = SampleOptions.defaultProbability)
    (hcounted : field.HasCountedChoices) :
    (∀ value, field.IsSample sampler value ↔ field.Fits sampler value) ∧
    field.SamplesEnds sampler := by
  have sample (value : Json) (h : field.Fits sampler value) : field.IsSample sampler value :=
    isSample_of_reaches (reaches_sample hdefault hcounted h)
  refine ⟨fun value => ⟨?_, sample value⟩, samplesEnds sample⟩
  rintro ⟨words, hwords⟩
  exact (field.yields_sample sampler).of_eq_ok hwords

/-- A ticket that may have a label, with a number of the range of all words. -/
def ticket : FieldSchema :=
  ofObject
    [("label", { kind := .string, choices := some [.string "new", .string "used"] }),
      ("number",
        { kind := .number, required := true, min := some 0, max := some 18446744073709551615 })]

/-- There is a ticket with the greatest number and no label. -/
theorem samples_are_all_that_fit_ticket :
    (Sampler.mk default .epoch).options.optionalProbability = SampleOptions.defaultProbability ∧
      ticket.HasCountedChoices ∧
      ticket.IsSample ⟨default, .epoch⟩ (.object [("number", .number 18446744073709551615)]) := by
  have hcounted : ticket.HasCountedChoices := by
    refine everywhere_ofObject.2 ⟨nofun, ?_⟩
    simp only [List.forall_mem_cons]
    refine ⟨everywhere_of_bare ?_ rfl rfl, everywhere_of_bare nofun rfl rfl, by simp⟩
    rintro _ ⟨⟩
    decide
  refine ⟨rfl, hcounted, ((samples_are_all_that_fit _ ticket rfl hcounted).1 _).2 ?_⟩
  exact .object rfl rfl rfl (.missing rfl (.present (.number rfl rfl ⟨by decide, by decide⟩) .nil))

end FieldSchema

end Fields

end ModelSchema
