/-
# `Bson.Rfc3339` — moments read from a date and a time of day

A day, any one ASCII character, a time with seconds and as many places after
them as one likes, and the distance from UTC: `2023-11-14T22:13:20.5+01:00`.
The moment is held in milliseconds, what is finer being cut off.  A sixtieth
second is read where one may be put in, at the end of a month in UTC, and
stands for the last moment before it.
-/
import ProviderRegistry.Bson.DateTime

namespace ProviderRegistry

namespace CalendarTime

/-- Whether February has a leap day. -/
def isLeapYear (year : Nat) : Bool :=
  year % 4 == 0 && (year % 100 != 0 || year % 400 == 0)

/-- The number of days of a month. -/
def daysIn (year month : Nat) : Nat :=
  if month == 2 then (if isLeapYear year then 29 else 28)
  else if [4, 6, 9, 11].contains month then 30
  else 31

/-- The number of days since the first of January 1970.  A year is counted from March, so that the
leap day is its last. -/
def dayNumber (year month day : Nat) : Int :=
  let y : Int := if month ≤ 2 then (year : Int) - 1 else year
  let fromMarch := if month ≤ 2 then month + 9 else month - 3
  365 * y + Int.fdiv y 4 - Int.fdiv y 100 + Int.fdiv y 400
    + (((153 * fromMarch + 2) / 5 + day : Nat) : Int) - 719469

example : dayNumber 1970 1 1 = 0 := by decide
example : dayNumber 2000 2 29 = 11016 := by decide
example : dayNumber 0 1 1 = -719528 := by decide

/-- Whether a number of seconds since 1970 begins a month. -/
def beginsMonth (seconds : Int) : Bool :=
  let t := ofMillis (seconds * 1000)
  t.day == 1 && t.hour == 0 && t.minute == 0 && t.second == 0

end CalendarTime

namespace Rfc3339

/-! ## Parts of the text -/

/-- A number of exactly so many digits, and what follows it. -/
def takeNumber? (width : Nat) (cs : List Char) : Option (Nat × List Char) :=
  let digits := cs.take width
  if digits.length == width && digits.all Char.isDigit then
    some (Decimal.ofDigits digits, cs.drop width)
  else none

/-- What follows a character of a kind. -/
def takeMark? (kind : Char → Bool) : List Char → Option (List Char)
  | c :: rest => if kind c then some rest else none
  | [] => none

/-- A day of the calendar as its number, and what follows it. -/
def takeDay? (cs : List Char) : Option (Int × List Char) := do
  let (year, cs) ← takeNumber? 4 cs
  let cs ← takeMark? (· == '-') cs
  let (month, cs) ← takeNumber? 2 cs
  let cs ← takeMark? (· == '-') cs
  let (day, cs) ← takeNumber? 2 cs
  if 1 ≤ month ∧ month ≤ 12 ∧ 1 ≤ day ∧ day ≤ CalendarTime.daysIn year month then
    some (CalendarTime.dayNumber year month day, cs)
  else none

/-- An hour and a minute in seconds, and what follows them. -/
def takeHourMinute? (cs : List Char) : Option (Nat × List Char) := do
  let (hour, cs) ← takeNumber? 2 cs
  let cs ← takeMark? (· == ':') cs
  let (minute, cs) ← takeNumber? 2 cs
  if hour ≤ 23 ∧ minute ≤ 59 then some (hour * 3600 + minute * 60, cs) else none

/-- The places after the seconds in billionths, if there are any, and what follows them. -/
def takeFraction? : List Char → Option (Nat × List Char)
  | '.' :: cs =>
    let digits := cs.takeWhile Char.isDigit
    if digits.isEmpty then none
    else some (Decimal.ofDigits ((digits ++ List.replicate 9 '0').take 9), cs.drop digits.length)
  | cs => some (0, cs)

/-- The distance from UTC in seconds, and what follows it. -/
def takeOffset? : List Char → Option (Int × List Char)
  | [] => none
  | c :: cs =>
    if c == 'Z' || c == 'z' then some (0, cs)
    else if c == '+' || c == '-' then
      (takeHourMinute? cs).map fun (seconds, cs) =>
        (if c == '-' then -(seconds : Int) else seconds, cs)
    else none

end Rfc3339

namespace DateTime

/-- The moment some billionths of a second after a number of seconds since 1970; what is finer than
a millisecond is cut off toward 1970. -/
def ofSeconds (seconds : Int) (billionths : Nat) : DateTime :=
  ⟨Int64.ofInt (Int.tdiv (seconds * 1000000000 + billionths) 1000000)⟩

open Rfc3339 in
/-- The moment that a text spells. -/
def ofRfc3339? (s : String) : Option DateTime := do
  let (day, cs) ← takeDay? s.toList
  let cs ← takeMark? (·.toNat < 128) cs
  let (time, cs) ← takeHourMinute? cs
  let cs ← takeMark? (· == ':') cs
  let (second, cs) ← takeNumber? 2 cs
  let (billionths, cs) ← takeFraction? cs
  let (offset, cs) ← takeOffset? cs
  let minute := day * 86400 + time - offset
  if !cs.isEmpty then none
  else if second ≤ 59 then some (ofSeconds (minute + second) billionths)
  else if second == 60 && CalendarTime.beginsMonth (minute + 60) then
    some (ofSeconds (minute + 59) 999999999)
  else none

end DateTime

end ProviderRegistry
