set_option autoImplicit false

/-!
# Instants

An instant is a second of universal time, counted from the beginning of 1970, and a number of
milliseconds since that second began. There are less than a thousand of these, except in a leap
second: it has no number of its own, and is told by the second before it and a thousand
milliseconds or more. An instant is written by its date in the Gregorian calendar, continued to
all years, and its time of day.

## Main definitions

* `Instant` — an instant, and `Instant.millis`, its milliseconds since the beginning of 1970.
* `Instant.ofMillis?` — the instant of a number of milliseconds.
* `Instant.yearOfDay`, `Instant.monthOfDay` — the date of a day.
* `Instant.text` — an instant as it is written.
-/

namespace ModelSchema

/-- An instant: a second, counted from the beginning of 1970, and milliseconds of it. -/
structure Instant where
  second : Int
  milli : Nat
  /-- The second is in one of the years from -262143 to 262142. -/
  covered : -8334601228800 ≤ second ∧ second ≤ 8210266876799
  /-- A leap second adds a thousand milliseconds to the second before it. -/
  milli_lt : milli < 2000
  deriving DecidableEq, Repr

namespace Instant

/-- The beginning of 1970. -/
def epoch : Instant where
  second := 0
  milli := 0
  covered := by decide
  milli_lt := by decide

/-- Where no other instant is given, it is the epoch. -/
instance : Inhabited Instant := ⟨epoch⟩

/-- The milliseconds since the beginning of 1970. In a leap second, they are those of the second
that follows it. -/
def millis (instant : Instant) : Int :=
  instant.second * 1000 + instant.milli

/-- The milliseconds of the last instant that is not in a leap second. -/
def lastMillis : Int := 8210266876799999

/-- The instant of a number of milliseconds, if the calendar covers it. It is never in a leap
second. -/
def ofMillis? (millis : Int) : Option Instant :=
  if h : -8334601228800 ≤ millis / 1000 ∧ millis / 1000 ≤ 8210266876799 then
    some
      { second := millis / 1000
        milli := (millis % 1000).toNat
        covered := h
        milli_lt := by omega }
  else none

/-! ## Dates -/

/-- The number of days before a year of a cycle of 400 years, the first of which is a leap year. -/
def daysBefore (year : Nat) : Nat :=
  365 * year + (year + 3) / 4 - (year + 99) / 100 + (year + 399) / 400

/-- The year of a day of a cycle, and the days of that year before it. A year has at most 366 days,
so dividing by 366 gives that year or the one before it. -/
def yearOfDay (day : Nat) : Nat × Nat :=
  let guess := day / 366
  let year := if daysBefore (guess + 1) ≤ day then guess + 1 else guess
  (year, day - daysBefore year)

/-- Whether a year of a cycle has 366 days. -/
def isLeap (year : Nat) : Bool :=
  year % 4 == 0 && (year % 100 != 0 || year % 400 == 0)

/-- The lengths of the months of a year of a cycle. -/
def monthLengths (year : Nat) : List Nat :=
  [31, if isLeap year then 29 else 28, 31, 30, 31, 30, 31, 31, 30, 31, 30, 31]

/-- The month of a day among months of the given lengths, counted from `month`, and the day of that
month, counted from one. -/
def monthOfDay (month : Nat) : List Nat → Nat → Nat × Nat
  | length :: lengths, day =>
    if day < length then (month, day + 1) else monthOfDay (month + 1) lengths (day - length)
  | [], day => (month, day + 1)

/-- The days from the beginning of the year zero to the beginning of 1970. -/
def epochDay : Int := 719528

/-- The days of a cycle of 400 years. -/
def cycleDays : Int := 146097

/-- The seconds of a day. -/
def daySeconds : Int := 86400

/-! ## Text -/

/-- A number in at least `width` digits. -/
def padded (width : Nat) (n : Nat) : List Char :=
  let digits := Nat.toDigits 10 n
  List.replicate (width - digits.length) '0' ++ digits

/-- A year: four digits from zero to 9999, and otherwise a sign and at least four digits. -/
def yearChars (year : Int) : List Char :=
  if year < 0 then '-' :: padded 4 year.natAbs
  else if year ≤ 9999 then padded 4 year.natAbs
  else '+' :: padded 4 year.natAbs

/-- A date, with the year, the month and the day. -/
def dateChars (year : Int) (month day : Nat) : List Char :=
  yearChars year ++ '-' :: (padded 2 month ++ '-' :: padded 2 day)

/-- A time of day with the hour, the minute, the second and three decimals. Milliseconds beyond a
thousand are written as one more second, which for the last second of a minute is its sixtieth. -/
def timeChars (second milli : Nat) : List Char :=
  padded 2 (second / 3600) ++ ':' :: (padded 2 (second / 60 % 60) ++ ':' ::
    (padded 2 (second % 60 + milli / 1000) ++ '.' :: padded 3 (milli % 1000)))

/-- The characters of an instant: its date, its time of day, and the mark of universal time. -/
def chars (instant : Instant) : List Char :=
  let day := instant.second / daySeconds + epochDay
  let cycle := day / cycleDays
  let (year, rest) := yearOfDay (day % cycleDays).toNat
  let (month, dayOfMonth) := monthOfDay 1 (monthLengths year) rest
  dateChars (cycle * 400 + year) month dayOfMonth ++
    'T' :: (timeChars (instant.second % daySeconds).toNat instant.milli ++ ['Z'])

/-- An instant as it is written. -/
def text (instant : Instant) : String :=
  String.ofList instant.chars

end Instant

end ModelSchema
