/-
# `Bson.DateTime` — moments counted in milliseconds, and their texts

A date is the number of milliseconds since the first of January 1970, UTC.
Its calendar form is that of the proleptic Gregorian calendar, computed on
eras of 400 years.  `display` is the text shown in messages and `rfc3339?`
the text shown to operators, which exists for the years 0 to 9999 only.
-/
import ProviderRegistry.Number.Decimal
import ProviderRegistry.Text.Quoted

namespace ProviderRegistry

/-- A moment, in milliseconds since 1970. -/
structure DateTime where
  millis : Int64
deriving DecidableEq, Inhabited

/-- A day of the calendar and the time on it. -/
structure CalendarTime where
  year : Int
  month : Nat
  day : Nat
  hour : Nat
  minute : Nat
  second : Nat
  milli : Nat

namespace CalendarTime

/-- The year, month and day that lie a number of days after the first of March of year 0.  A
year here begins in March, so that the leap day is its last. -/
def ofMarchDays (days : Int) : Int × Nat × Nat :=
  let era := Int.fdiv days 146097
  let dayOfEra := (days - era * 146097).toNat
  let yearOfEra :=
    (dayOfEra - dayOfEra / 1460 + dayOfEra / 36524 - dayOfEra / 146096) / 365
  let dayOfYear := dayOfEra - (365 * yearOfEra + yearOfEra / 4 - yearOfEra / 100)
  let fromMarch := (5 * dayOfYear + 2) / 153
  let day := dayOfYear - (153 * fromMarch + 2) / 5 + 1
  let month := if fromMarch < 10 then fromMarch + 3 else fromMarch - 9
  let year := yearOfEra + era * 400 + (if month ≤ 2 then 1 else 0)
  (year, month, day)

/-- The calendar form of a number of milliseconds since 1970. -/
def ofMillis (millis : Int) : CalendarTime :=
  let days := Int.fdiv millis 86400000
  let rest := (millis - days * 86400000).toNat
  let (year, month, day) := ofMarchDays (days + 719468)
  ⟨year, month, day, rest / 3600000, rest / 60000 % 60, rest / 1000 % 60, rest % 1000⟩

/-- A number of at least the given width. -/
def padded (width n : Nat) : String :=
  String.ofList (Text.padZeros width (Decimal.digitsOf n))

/-- The digits of the milliseconds after the second, without zeros at their end. -/
def fractionDigits (t : CalendarTime) : List Char :=
  ((Text.padZeros 3 (Decimal.digitsOf t.milli)).reverse.dropWhile (· == '0')).reverse

/-- The year in four digits, with a sign where it is negative or needs more. -/
def yearText (t : CalendarTime) : String :=
  let sign := if t.year < 0 then "-" else if 9999 < t.year then "+" else ""
  sign ++ padded 4 t.year.natAbs

/-- The day of the calendar. -/
def dateText (t : CalendarTime) : String :=
  t.yearText ++ "-" ++ padded 2 t.month ++ "-" ++ padded 2 t.day

/-- The text of a moment for messages: the hour is not padded and the fraction has a digit. -/
def display (t : CalendarTime) : String :=
  let fraction := if t.milli == 0 then "0" else String.ofList t.fractionDigits
  t.dateText ++ " " ++ padded 1 t.hour ++ ":" ++ padded 2 t.minute ++ ":" ++ padded 2 t.second
    ++ "." ++ fraction ++ " +00:00:00"

/-- The text of a moment by RFC 3339: no fraction when it is zero. -/
def rfc3339 (t : CalendarTime) : String :=
  let fraction := if t.milli == 0 then "" else "." ++ String.ofList t.fractionDigits
  t.dateText ++ "T" ++ padded 2 t.hour ++ ":" ++ padded 2 t.minute ++ ":" ++ padded 2 t.second
    ++ fraction ++ "Z"

end CalendarTime

namespace DateTime

/-- The calendar form of a moment. -/
def calendar (d : DateTime) : CalendarTime := CalendarTime.ofMillis d.millis.toInt

/-- The text of a moment in messages; beyond the years of six digits it is the bare count. -/
def display (d : DateTime) : String :=
  let t := d.calendar
  if t.year.natAbs ≤ 999999 then t.display else toString d.millis.toInt

/-- The text of a moment by RFC 3339, for the years it can write. -/
def rfc3339? (d : DateTime) : Option String :=
  let t := d.calendar
  if 0 ≤ t.year ∧ t.year ≤ 9999 then some t.rfc3339 else none

end DateTime

/-- The present, in the two forms that records hold. -/
structure Moment where
  date : DateTime
  text : String

end ProviderRegistry
