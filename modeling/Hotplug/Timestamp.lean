import Hotplug.Digits
import Hotplug.Storage

/-!
# Timestamps

The API server writes a point in time as a date, a time of day and the offset of the local clock,
such as `2024-05-01T10:00:00.5+02:00`. The sixtieth second of a minute is a leap second, and it
counts as the second before it.

## Main definitions

* `Timestamp.dayNumber` — the days from 1970 to a date.
* `Timestamp` — the parts of a written time; `Timestamp.instant` says when it is.
* `Timestamp.read?` — reads a text.
-/

namespace Hotplug

/-- The parts of a written time. -/
structure Timestamp where
  year : Nat
  month : Nat
  day : Nat
  hour : Nat
  minute : Nat
  /-- The second, where 60 is a leap second. -/
  second : Nat
  /-- The nanoseconds after it. -/
  nanos : Nat
  /-- How many seconds the local clock is ahead. -/
  offset : Int
  deriving DecidableEq, Repr

namespace Timestamp

/-- Whether a year has 366 days. -/
def isLeapYear (year : Nat) : Bool :=
  year % 4 == 0 && (year % 100 != 0 || year % 400 == 0)

/-- The number of days of each month. -/
def monthLengths (year : Nat) : List Nat :=
  [31, if isLeapYear year then 29 else 28, 31, 30, 31, 30, 31, 31, 30, 31, 30, 31]

/-- The number of leap years before a year, from year zero on. -/
def leapYearsBefore (year : Nat) : Nat :=
  (year + 3) / 4 - (year + 99) / 100 + (year + 399) / 400

/-- The days from the start of year zero to a date. -/
def daysFromYearZero (year month day : Nat) : Nat :=
  let daysBefore := ((monthLengths year).take (month - 1)).foldl (· + ·) 0
  365 * year + leapYearsBefore year + daysBefore + (day - 1)

/-- The days from 1970 to a date; days before it are negative. -/
def dayNumber (year month day : Nat) : Int :=
  daysFromYearZero year month day - daysFromYearZero 1970 1 1

/-- Whether the parts are a date, a time of day and an offset of less than a day. -/
def isValid (t : Timestamp) : Bool :=
  1 ≤ t.month && t.month ≤ 12 && 1 ≤ t.day &&
    t.day ≤ ((monthLengths t.year)[t.month - 1]?.getD 0) &&
    t.hour < 24 && t.minute < 60 && t.second ≤ 60 && t.offset.natAbs < 86400

/-- When a written time is. -/
def instant (t : Timestamp) : Instant :=
  { seconds := dayNumber t.year t.month t.day * 86400 + t.hour * 3600 + t.minute * 60 +
      (min t.second 59 : Nat) - t.offset
    nanos := if t.second = 60 then 1000000000 + t.nanos else t.nanos }

/-- Takes so many digits off the front. -/
def takeDigits? (count : Nat) (cs : List Char) : Option (Nat × List Char) :=
  (Digits.readNat? (cs.take count)).bind fun n =>
    if count ≤ cs.length then some (n, cs.drop count) else none

/-- Takes one of some characters off the front. -/
def takeOneOf? (allowed : List Char) : List Char → Option (List Char)
  | [] => none
  | c :: rest => if allowed.contains c then some rest else none

/-- Takes the nanoseconds after a point, where there is one: the first nine digits count. -/
def takeFraction? (cs : List Char) : Option (Nat × List Char) :=
  match cs with
  | '.' :: rest =>
    let digits := rest.takeWhile Char.isDigit
    if digits.isEmpty then none
    else some (Digits.value ((digits ++ List.replicate 9 '0').take 9), rest.dropWhile Char.isDigit)
  | _ => some (0, cs)

/-- Reads an offset: `Z`, or a sign, hours and minutes. The sign may be the mathematical minus. -/
def readOffset? (cs : List Char) : Option Int :=
  match cs with
  | ['Z'] => some 0
  | ['z'] => some 0
  | sign :: rest =>
    if sign = '+' || sign = '-' || sign = '\u2212' then do
      let (hours, rest) ← takeDigits? 2 rest
      let rest ← takeOneOf? [':'] rest
      let (minutes, rest) ← takeDigits? 2 rest
      if rest.isEmpty && minutes < 60 then
        let ahead : Int := hours * 3600 + minutes * 60
        return if sign = '+' then ahead else -ahead
      else none
    else none
  | [] => none

/-- Reads the parts of a time. -/
def parts? (cs : List Char) : Option Timestamp := do
  let (year, cs) ← takeDigits? 4 cs
  let cs ← takeOneOf? ['-'] cs
  let (month, cs) ← takeDigits? 2 cs
  let cs ← takeOneOf? ['-'] cs
  let (day, cs) ← takeDigits? 2 cs
  let cs ← takeOneOf? ['T', 't', ' '] cs
  let (hour, cs) ← takeDigits? 2 cs
  let cs ← takeOneOf? [':'] cs
  let (minute, cs) ← takeDigits? 2 cs
  let cs ← takeOneOf? [':'] cs
  let (second, cs) ← takeDigits? 2 cs
  let (nanos, cs) ← takeFraction? cs
  let offset ← readOffset? cs
  return { year, month, day, hour, minute, second, nanos, offset }

/-- When a text says it is, if it is a time. -/
def read? (text : String) : Option Instant :=
  ((parts? text.toList).filter isValid).map instant

/-- The nanoseconds of a fraction are fewer than a second. -/
example : takeFraction? ".1234567891Z".toList = some (123456789, ['Z']) := by decide

/-- A leap second counts as the second before it. -/
example : read? "2016-12-31T23:59:60Z" = some ⟨1483228799, 1000000000⟩ := by decide +kernel

/-- A local clock that is ahead shows a later time. -/
example : read? "1970-01-01T00:30:00+01:00" = some ⟨-1800, 0⟩ := by decide +kernel

end Timestamp

end Hotplug
