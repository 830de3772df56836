import Mathlib.Algebra.Order.Ring.Nat
import Mathlib.Data.List.Forall2
import Mathlib.Order.Monotone.Basic
import ModelSchema.Instant

set_option autoImplicit false

/-!
# Dates and times of instants

An instant is written as its date in the Gregorian calendar and its time of day. Both are given by
the rules for leap years and for the lengths of months, without the cycles of years that the writing
goes by.

## Main definitions

* `Calendar.IsLeap`, `Calendar.yearStart`, `Calendar.monthLength`, `Calendar.monthStart` — the
  calendar.
* `Timestamp` — a date and a time of day, `Timestamp.millis`, the instant that they tell, and
  `Timestamp.text`, how they are written.
* `Timestamp.IsPlain` — a date and a time of day with a year of four digits.

## Main results

* `Calendar.yearStart_succ`, `Calendar.monthStart_thirteen` — a year has 365 days, or 366 if it is a
  leap year, and its months have as many.
* `Timestamp.millis_injective` — an instant has no more than one date and time of day.
* `Timestamp.isPlain_text_iff` — the year is written with four digits up to the year 9999.
* `Instant.exists_timestamp`, `Instant.text_eq` — it has one, and is written by it, unless it is in
  a leap second.
* `Instant.millis_of_ofMillis?`, `Instant.ofMillis?_eq_none_iff` — the instants of milliseconds.
-/

namespace ModelSchema

/-! ## The calendar -/

namespace Calendar

/-- Every fourth year is a leap year, but of the full centuries only every fourth one. -/
def IsLeap (year : Int) : Prop :=
  year % 4 = 0 ∧ (year % 100 ≠ 0 ∨ year % 400 = 0)

/-- Leap years are told by division. -/
instance (year : Int) : Decidable (IsLeap year) :=
  inferInstanceAs (Decidable (_ ∧ (_ ∨ _)))

/-- The days from the beginning of the year zero to the beginning of a year. -/
def yearStart (year : Int) : Int :=
  365 * year + (year + 3) / 4 - (year + 99) / 100 + (year + 399) / 400

/-- The length of a month of a year. -/
def monthLength (year : Int) (month : Nat) : Nat :=
  if month = 2 then if IsLeap year then 29 else 28
  else if month ∈ [4, 6, 9, 11] then 30
  else 31

/-- No month has more than 31 days. -/
lemma monthLength_le (year : Int) (month : Nat) : monthLength year month ≤ 31 := by
  unfold monthLength
  split
  · split <;> omega
  · split <;> omega

/-- The days of a year before a month. -/
def monthStart (year : Int) (month : Nat) : Nat :=
  ((List.range' 1 (month - 1)).map (monthLength year)).sum

/-- A year has 365 days, or 366 if it is a leap year. -/
theorem yearStart_succ (year : Int) :
    yearStart (year + 1) = yearStart year + if IsLeap year then 366 else 365 := by
  by_cases h : IsLeap year
  · rw [if_pos h]
    unfold yearStart
    unfold IsLeap at h
    omega
  · rw [if_neg h]
    unfold yearStart
    unfold IsLeap at h
    omega

/-- The months of a year have as many days as the year. -/
theorem monthStart_thirteen (year : Int) :
    (monthStart year 13 : Int) = yearStart (year + 1) - yearStart year := by
  rw [yearStart_succ]
  by_cases h : IsLeap year <;> simp [monthStart, monthLength, List.range', h]

/-- A year is over when any later one begins. -/
lemma yearStart_succ_le {year later : Int} (h : year < later) :
    yearStart (year + 1) ≤ yearStart later := by
  have hsteps : Monotone yearStart := monotone_int_of_le_succ fun n => by
    rw [yearStart_succ]
    split <;> omega
  exact hsteps h

/-- A month begins when the one before it is over. -/
lemma monthStart_succ (year : Int) {month : Nat} (h : 1 ≤ month) :
    monthStart year (month + 1) = monthStart year month + monthLength year month := by
  obtain ⟨m, rfl⟩ := Nat.exists_eq_add_of_le' h
  simp [monthStart, List.range'_concat, Nat.add_comm]

/-- A month is over when any later one begins. -/
lemma monthStart_succ_le (year : Int) {month later : Nat} (h : month < later) :
    monthStart year (month + 1) ≤ monthStart year later := by
  have hsteps : Monotone (monthStart year) := monotone_nat_of_le_succ fun n => by
    cases n with
    | zero => simp [monthStart]
    | succ n =>
      rw [monthStart_succ year (Nat.le_add_left 1 n)]
      exact Nat.le_add_right _ _
  exact hsteps h

end Calendar

/-! ## Timestamps -/

/-- A date of the calendar and a time of day, to the millisecond. -/
structure Timestamp where
  year : Int
  month : Nat
  day : Nat
  hour : Nat
  minute : Nat
  second : Nat
  milli : Nat
  month_range : 1 ≤ month ∧ month ≤ 12
  day_range : 1 ≤ day ∧ day ≤ Calendar.monthLength year month
  hour_lt : hour < 24
  minute_lt : minute < 60
  second_lt : second < 60
  milli_lt : milli < 1000

namespace Timestamp

/-- The days from the beginning of the year zero to a date. -/
def days (t : Timestamp) : Int :=
  Calendar.yearStart t.year + Calendar.monthStart t.year t.month + (t.day - 1)

/-- The milliseconds from the beginning of 1970 to a date and a time of day. -/
def millis (t : Timestamp) : Int :=
  (((t.days - Calendar.yearStart 1970) * 24 + t.hour) * 60 + t.minute) * 60000 + t.second * 1000 +
    t.milli

/-- A date and a time of day as they are written: two digits for each part but the year and the
milliseconds, which have four and three. -/
def text (t : Timestamp) : String :=
  String.ofList (Instant.yearChars t.year ++
    '-' :: (Instant.padded 2 t.month ++
      '-' :: (Instant.padded 2 t.day ++
        'T' :: (Instant.padded 2 t.hour ++
          ':' :: (Instant.padded 2 t.minute ++
            ':' :: (Instant.padded 2 t.second ++ '.' :: (Instant.padded 3 t.milli ++ ['Z'])))))))

/-- A timestamp is not written by an empty text. -/
lemma text_ne_empty (t : Timestamp) : t.text ≠ "" := by
  intro h
  have hchars := congrArg String.toList h
  rw [text, String.toList_ofList] at hchars
  exact List.append_ne_nil_of_right_ne_nil _ (List.cons_ne_nil _ _) hchars

/-! ### Years of four digits -/

/-- What may stand at a place of a date: a digit at a `d`; any other place holds itself. -/
def FillsPlace (place c : Char) : Prop :=
  if place = 'd' then c.isDigit = true else c = place

/-- Places are compared as characters. -/
instance (place c : Char) : Decidable (FillsPlace place c) :=
  inferInstanceAs (Decidable (if place = 'd' then c.isDigit = true else c = place))

/-- The places of a date and a time of day with a year of four digits. -/
def places : List Char :=
  "dddd-dd-ddTdd:dd:dd.dddZ".toList

/-- A date and a time of day of universal time, with a year of four digits and with milliseconds. -/
def IsPlain (text : String) : Prop :=
  List.Forall₂ FillsPlace places text.toList

/-- The plain form is compared place by place. -/
instance (text : String) : Decidable (IsPlain text) :=
  inferInstanceAs (Decidable (List.Forall₂ FillsPlace places text.toList))

/-- A number that is short enough takes the places of as many digits as are asked for. -/
lemma forall₂_padded (width : ℕ) {n : ℕ} (hwidth : 0 < width) (h : n < 10 ^ width) :
    List.Forall₂ FillsPlace (List.replicate width 'd') (Instant.padded width n) := by
  have hlength : (Nat.toDigits 10 n).length ≤ width :=
    (Nat.length_toDigits_le_iff (by decide) hwidth).2 h
  refine List.forall₂_iff_get.2 ⟨by simp [Instant.padded, hlength], fun i _ hi => ?_⟩
  have hmem := List.get_mem (Instant.padded width n) ⟨i, hi⟩
  have hdigit : ((Instant.padded width n).get ⟨i, hi⟩).isDigit = true := by
    rcases List.mem_append.1 hmem with hzero | hdigits
    · rw [List.eq_of_mem_replicate hzero]
      rfl
    · exact Nat.isDigit_of_mem_toDigits (by decide) (by decide) hdigits
  simpa [FillsPlace] using hdigit

/-- A year of more than four digits, or one before the year zero, begins with its sign. -/
lemma exists_sign {year : Int} (h : ¬ (0 ≤ year ∧ year ≤ 9999)) :
    ∃ sign cs, Instant.yearChars year = sign :: cs ∧ ¬ FillsPlace 'd' sign := by
  unfold Instant.yearChars
  by_cases hneg : year < 0
  · rw [if_pos hneg]
    exact ⟨_, _, rfl, by decide⟩
  · rw [if_neg hneg, if_neg (by omega)]
    exact ⟨_, _, rfl, by decide⟩

/-- A part of a date takes its places, and so do a mark after it and the parts behind that. -/
lemma forall₂_part (width : ℕ) {n : ℕ} (hwidth : 0 < width) (h : n < 10 ^ width) (mark : Char)
    (hmark : FillsPlace mark mark) {later cs : List Char}
    (hlater : List.Forall₂ FillsPlace later cs) :
    List.Forall₂ FillsPlace (List.replicate width 'd' ++ mark :: later)
      (Instant.padded width n ++ mark :: cs) :=
  List.rel_append (forall₂_padded width hwidth h) (.cons hmark hlater)

/-- **A date and a time have a year of four digits** when they are of the years from zero to
9999. -/
theorem isPlain_text_iff (t : Timestamp) : IsPlain t.text ↔ 0 ≤ t.year ∧ t.year ≤ 9999 := by
  rw [IsPlain, text, String.toList_ofList]
  constructor
  · refine fun h => by_contra fun hyear => ?_
    obtain ⟨sign, cs, hchars, hsign⟩ := exists_sign hyear
    rw [hchars] at h
    cases h with
    | cons hplace _ => exact hsign hplace
  · rintro ⟨hlo, hhi⟩
    rw [Instant.yearChars, if_neg (Int.not_lt.2 hlo), if_pos hhi]
    have hday : t.day ≤ 31 := t.day_range.2.trans (Calendar.monthLength_le t.year t.month)
    have hmonth := t.month_range
    have hhour := t.hour_lt
    have hminute := t.minute_lt
    have hsecond := t.second_lt
    refine forall₂_part 4 (by decide) (by omega) '-' (by decide) ?_
    refine forall₂_part 2 (by decide) (by omega) '-' (by decide) ?_
    refine forall₂_part 2 (by decide) (by omega) 'T' (by decide) ?_
    refine forall₂_part 2 (by decide) (by omega) ':' (by decide) ?_
    refine forall₂_part 2 (by decide) (by omega) ':' (by decide) ?_
    refine forall₂_part 2 (by decide) (by omega) '.' (by decide) ?_
    exact List.rel_append (forall₂_padded 3 (by decide) t.milli_lt) (.cons rfl .nil)

/-! ### Dates in order -/

/-- A date lies in its month. -/
lemma days_lt_month (t : Timestamp) :
    t.days < Calendar.yearStart t.year + Calendar.monthStart t.year (t.month + 1) := by
  have hday := t.day_range
  have hmonth := Calendar.monthStart_succ t.year t.month_range.1
  unfold days
  omega

/-- A date of a year is over when any later year begins. -/
lemma days_lt_yearStart {t : Timestamp} {later : Int} (h : t.year < later) :
    t.days < Calendar.yearStart later := by
  have hmonth := t.days_lt_month
  have hmonths : t.month < 13 := Nat.lt_succ_of_le t.month_range.2
  have hyear := Calendar.monthStart_thirteen t.year
  have hover := Calendar.monthStart_succ_le t.year hmonths
  have hlater := Calendar.yearStart_succ_le h
  omega

/-- A date of a year is before any date of a later one. -/
lemma days_lt_of_year_lt {t u : Timestamp} (h : t.year < u.year) : t.days < u.days := by
  have hover := days_lt_yearStart h
  have hday := u.day_range
  unfold days at hover ⊢
  omega

/-- A date of a month is before any date of a later month of the same year. -/
lemma days_lt_of_month_lt {t u : Timestamp} (hyear : t.year = u.year) (h : t.month < u.month) :
    t.days < u.days := by
  have hmonth := t.days_lt_month
  have hover := Calendar.monthStart_succ_le t.year h
  have hday := u.day_range
  unfold days at hmonth ⊢
  rw [← hyear]
  omega

/-- What does not come before 1970 does not come before the year zero. -/
lemma year_nonneg {t : Timestamp} (h : 0 ≤ t.millis) : 0 ≤ t.year := by
  by_contra hyear
  have hdays := days_lt_yearStart (Int.not_le.1 hyear)
  have hzero : Calendar.yearStart 0 = 0 := by decide
  have hepoch : Calendar.yearStart 1970 = 719528 := by decide
  have hhour := t.hour_lt
  have hminute := t.minute_lt
  have hsecond := t.second_lt
  have hmilli := t.milli_lt
  unfold millis at h
  omega

/-- Two dates of one day are the same date. -/
lemma date_eq_of_days_eq {t u : Timestamp} (h : t.days = u.days) :
    t.year = u.year ∧ t.month = u.month ∧ t.day = u.day := by
  have hyear : t.year = u.year := by
    rcases Int.lt_trichotomy t.year u.year with hlt | heq | hgt
    · exact absurd h (Int.ne_of_lt (days_lt_of_year_lt hlt))
    · exact heq
    · exact absurd h.symm (Int.ne_of_lt (days_lt_of_year_lt hgt))
  have hmonth : t.month = u.month := by
    rcases Nat.lt_trichotomy t.month u.month with hlt | heq | hgt
    · exact absurd h (Int.ne_of_lt (days_lt_of_month_lt hyear hlt))
    · exact heq
    · exact absurd h.symm (Int.ne_of_lt (days_lt_of_month_lt hyear.symm hgt))
  unfold days at h
  rw [hyear, hmonth] at h
  exact ⟨hyear, hmonth, by omega⟩

/-- **An instant has one timestamp**: no two of them tell the same one. -/
theorem millis_injective : Function.Injective millis := by
  intro t u h
  have hdays : t.days = u.days ∧ t.hour = u.hour ∧ t.minute = u.minute ∧ t.second = u.second ∧
      t.milli = u.milli := by
    have ht := And.intro t.hour_lt (And.intro t.minute_lt (And.intro t.second_lt t.milli_lt))
    have hu := And.intro u.hour_lt (And.intro u.minute_lt (And.intro u.second_lt u.milli_lt))
    unfold millis at h
    omega
  obtain ⟨hday, hhour, hminute, hsecond, hmilli⟩ := hdays
  obtain ⟨hyear, hmonth, hdate⟩ := date_eq_of_days_eq hday
  cases t
  cases u
  simp_all only

end Timestamp

/-! ## Instants -/

namespace Instant

open Calendar

/-- A year of a cycle begins as many days after the beginning of the cycle as the writing has it. -/
lemma yearStart_cycle (cycle : Int) (year : ℕ) :
    yearStart (cycle * 400 + year) = cycle * cycleDays + daysBefore year := by
  unfold yearStart daysBefore cycleDays
  omega

/-- The leap years of a cycle are those of every other one. -/
lemma isLeap_cycle (cycle : Int) (year : ℕ) : IsLeap (cycle * 400 + year) ↔ isLeap year = true := by
  unfold IsLeap isLeap
  simp only [Bool.and_eq_true, Bool.or_eq_true, beq_iff_eq, bne_iff_ne, ne_eq]
  omega

/-- The months of a year of a cycle have the lengths that the writing goes by. -/
lemma monthLengths_cycle (cycle : Int) (year : ℕ) :
    monthLengths year = (List.range' 1 12).map (monthLength (cycle * 400 + year)) := by
  by_cases h : IsLeap (cycle * 400 + year)
  · simp [monthLengths, monthLength, List.range', h, (isLeap_cycle cycle year).1 h]
  · have hnot : isLeap year = false :=
      Bool.eq_false_iff.2 fun hleap => h ((isLeap_cycle cycle year).2 hleap)
    simp [monthLengths, monthLength, List.range', h, hnot]

/-- The year of a day of a cycle has begun on that day, and the next one has not. -/
lemma yearOfDay_spec {day : ℕ} (h : day < 146097) :
    daysBefore (yearOfDay day).1 + (yearOfDay day).2 = day ∧
      day < daysBefore ((yearOfDay day).1 + 1) := by
  unfold yearOfDay
  dsimp only
  split
  · next hle =>
    constructor
    · omega
    · unfold daysBefore at *
      omega
  · next hlt =>
    unfold daysBefore at *
    omega

/-- The month of a day, and the day of that month. -/
lemma monthOfDay_spec {lengths : List ℕ} (first : ℕ) {day : ℕ} (h : day < lengths.sum) :
    ∃ i, ∃ hi : i < lengths.length, (monthOfDay first lengths day).1 = first + i ∧
      1 ≤ (monthOfDay first lengths day).2 ∧ (monthOfDay first lengths day).2 ≤ lengths[i] ∧
      (lengths.take i).sum + (monthOfDay first lengths day).2 = day + 1 := by
  induction lengths generalizing first day with
  | nil => simp at h
  | cons length lengths ih =>
    rw [monthOfDay]
    split
    · next hlt => exact ⟨0, by simp, rfl, by simp, hlt, by simp⟩
    · next hle =>
      rw [List.sum_cons] at h
      have hrest : day - length < lengths.sum := by omega
      obtain ⟨i, hi, hmonth, hlo, hhi, hsum⟩ := ih (first + 1) hrest
      refine ⟨i + 1, by simpa using hi, by omega, hlo, hhi, ?_⟩
      rw [List.take_succ_cons, List.sum_cons]
      omega

/-- The months of a year of a cycle have as many days as there are until the next year. -/
lemma daysBefore_succ (year : ℕ) :
    daysBefore (year + 1) = daysBefore year + (monthLengths year).sum := by
  have hthis := yearStart_cycle 0 year
  have hnext := yearStart_cycle 0 (year + 1)
  have hsum : yearStart (0 * 400 + year + 1) - yearStart (0 * 400 + year) =
      (monthLengths year).sum := by
    rw [← monthStart_thirteen, monthLengths_cycle 0, monthStart]
  rw [show (0 * 400 + (year + 1 : ℕ) : Int) = 0 * 400 + year + 1 by omega] at hnext
  omega

/-- The year, the month and the day of the month by which a day is written are a date of the
calendar, which is that day. -/
lemma date_spec (day : Int) {cycle : Int} {year month : ℕ × ℕ} (hcycle : cycle = day / cycleDays)
    (hyear : year = yearOfDay (day % cycleDays).toNat)
    (hmonth : month = monthOfDay 1 (monthLengths year.1) year.2) :
    (1 ≤ month.1 ∧ month.1 ≤ 12) ∧
    (1 ≤ month.2 ∧ month.2 ≤ monthLength (cycle * 400 + year.1) month.1) ∧
    yearStart (cycle * 400 + year.1) + monthStart (cycle * 400 + year.1) month.1 + (month.2 - 1) =
      day := by
  rw [cycleDays] at hcycle hyear
  obtain ⟨hbegun, hnext⟩ := yearOfDay_spec (show (day % 146097).toNat < 146097 by omega)
  rw [← hyear] at hbegun hnext
  rw [daysBefore_succ] at hnext
  have hinside : year.2 < (monthLengths year.1).sum := by omega
  obtain ⟨i, hi, hfirst, hlo, hhi, hsum⟩ := monthOfDay_spec 1 hinside
  rw [← hmonth] at hfirst hlo hhi hsum
  have hlengths := monthLengths_cycle cycle year.1
  have hi12 : i < 12 := by rwa [hlengths, List.length_map, List.length_range'] at hi
  have hlength : (monthLengths year.1)[i] = monthLength (cycle * 400 + year.1) month.1 := by
    simp [hlengths, hfirst]
  have hstart : ((monthLengths year.1).take i).sum = monthStart (cycle * 400 + year.1) month.1 := by
    rw [hlengths, monthStart, ← List.map_take, List.take_range'_of_length_ge (Nat.le_of_lt hi12),
      hfirst, Nat.add_sub_cancel_left]
  refine ⟨by omega, ⟨hlo, Nat.le_trans hhi (Nat.le_of_eq hlength)⟩, ?_⟩
  rw [yearStart_cycle, cycleDays]
  rw [hstart] at hsum
  omega

/-- **An instant has a timestamp**, unless it is in a leap second: its text is that of a date of the
calendar and a time of day which tell it. -/
theorem exists_timestamp {instant : Instant} (h : instant.milli < 1000) :
    ∃ t : Timestamp, t.millis = instant.millis ∧ t.text = instant.text := by
  obtain ⟨hmonth, hday, hdate⟩ := date_spec (instant.second / daySeconds + epochDay) rfl rfl rfl
  refine ⟨{ year := _, month := _, day := _, month_range := hmonth, day_range := hday
            hour := (instant.second % daySeconds).toNat / 3600
            minute := (instant.second % daySeconds).toNat / 60 % 60
            second := (instant.second % daySeconds).toNat % 60
            milli := instant.milli
            hour_lt := ?_
            minute_lt := Nat.mod_lt _ (by decide)
            second_lt := Nat.mod_lt _ (by decide)
            milli_lt := h }, ?_, ?_⟩
  · rw [daySeconds]
    omega
  · rw [Timestamp.millis, Timestamp.days]
    dsimp only
    have hepoch : yearStart 1970 = epochDay := rfl
    rw [hdate, hepoch, millis, daySeconds]
    omega
  · simp [Timestamp.text, text, chars, dateChars, timeChars, Nat.div_eq_of_lt h, Nat.mod_eq_of_lt h]

/-- **The timestamp of an instant is its text**, unless the instant is in a leap second. -/
theorem text_eq {instant : Instant} {t : Timestamp} (hmilli : instant.milli < 1000)
    (h : t.millis = instant.millis) : instant.text = t.text := by
  obtain ⟨u, hmillis, htext⟩ := exists_timestamp hmilli
  rw [← htext, Timestamp.millis_injective (hmillis.trans h.symm)]

/-- The instant of a number of milliseconds has as many, and is not in a leap second. -/
theorem millis_of_ofMillis? {millis : Int} {instant : Instant}
    (h : ofMillis? millis = some instant) : instant.millis = millis ∧ instant.milli < 1000 := by
  unfold ofMillis? at h
  split at h
  · cases h
    rw [Instant.millis]
    dsimp only
    omega
  · cases h

/-- A number of milliseconds that are not before 1970 is an instant, up to the last one. -/
theorem ofMillis?_eq_none_iff {millis : Int} (h : 0 ≤ millis) :
    ofMillis? millis = none ↔ lastMillis < millis := by
  unfold ofMillis? lastMillis
  split
  · next hcovered =>
    refine ⟨nofun, fun hlast => ?_⟩
    omega
  · next huncovered =>
    refine ⟨fun _ => ?_, fun _ => rfl⟩
    omega

/-- Milliseconds up to the last ones are an instant, which some timestamp tells. -/
lemma exists_millis_eq {millis : Int} (hlo : 0 ≤ millis) (hhi : millis ≤ lastMillis) :
    ∃ t : Timestamp, t.millis = millis := by
  cases h : ofMillis? millis with
  | none => exact absurd ((ofMillis?_eq_none_iff hlo).1 h) (Int.not_lt.2 hhi)
  | some instant =>
    obtain ⟨hmillis, hmilli⟩ := millis_of_ofMillis? h
    obtain ⟨t, ht, -⟩ := exists_timestamp hmilli
    exact ⟨t, ht.trans hmillis⟩

/-- A timestamp up to the last one is the text of an instant. -/
lemma exists_ofMillis? {t : Timestamp} (hlo : 0 ≤ t.millis) (hhi : t.millis ≤ lastMillis) :
    ∃ instant, ofMillis? t.millis = some instant ∧ instant.text = t.text := by
  cases h : ofMillis? t.millis with
  | none => exact absurd ((ofMillis?_eq_none_iff hlo).1 h) (Int.not_lt.2 hhi)
  | some instant =>
    obtain ⟨hmillis, hmilli⟩ := millis_of_ofMillis? h
    exact ⟨instant, rfl, text_eq hmilli hmillis.symm⟩

end Instant

end ModelSchema
