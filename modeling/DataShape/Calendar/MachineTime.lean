import DataShape.Calendar.Moment

/-!
# Machine times

Moments and spans of time as whole numbers of a unit. A moment counts from the start of 1970, in a
calendar without a first or a last year. Years and months have no fixed number of days, so a span of
them is measured in months, any other one in nanoseconds.
-/

namespace DataShape

open Text

inductive TimeUnit where
  | year
  | month
  | week
  | day
  | hour
  | minute
  | second
  | millisecond
  | microsecond
  | nanosecond
deriving DecidableEq

namespace TimeUnit

def symbol : TimeUnit → String
  | .year => "Y"
  | .month => "M"
  | .week => "W"
  | .day => "D"
  | .hour => "h"
  | .minute => "m"
  | .second => "s"
  | .millisecond => "ms"
  | .microsecond => "us"
  | .nanosecond => "ns"

def plural : TimeUnit → String
  | .year => "years"
  | .month => "months"
  | .week => "weeks"
  | .day => "days"
  | .hour => "hours"
  | .minute => "minutes"
  | .second => "seconds"
  | .millisecond => "milliseconds"
  | .microsecond => "microseconds"
  | .nanosecond => "nanoseconds"

/-- The length of a unit in months or in nanoseconds. -/
def length : TimeUnit → Int ⊕ Int
  | .year => .inl 12
  | .month => .inl 1
  | .week => .inr (7 * 86400000000000)
  | .day => .inr 86400000000000
  | .hour => .inr 3600000000000
  | .minute => .inr 60000000000
  | .second => .inr 1000000000
  | .millisecond => .inr 1000000
  | .microsecond => .inr 1000
  | .nanosecond => .inr 1

/-- Whether the unit is a day or longer. -/
def isDays : TimeUnit → Bool
  | .year | .month | .week | .day => true
  | _ => false

end TimeUnit

/-- The days of a calendar without a first or a last year, as far from the start of 1970. -/
structure FarDay where
  year : Int
  month : Nat
  day : Nat

namespace FarDay

/-- The days from the start of 1970 to the start of a month, which is counted from there too. -/
def startOfMonth (months : Int) : Int :=
  let years := 1969 + Int.fdiv months 12
  -- the calendar repeats itself after 400 years
  let like := 400 + (Int.fmod (years + 1) 400).toNat
  let before := (List.range (Int.fmod months 12).toNat).foldl
    (fun n m => n + Date.daysInMonth like (m + 1)) 0
  365 * years + Int.fdiv years 4 - Int.fdiv years 100 + Int.fdiv years 400 - 719162 + before

/-- The day that is so many days from the first one of 1970. -/
def ofDays (days : Int) : FarDay :=
  -- years are counted from March on, which puts the leap day at the end
  let fromMarch := days + 719468
  let left := (Int.fmod fromMarch 146097).toNat
  let years := (left - left / 1460 + left / 36524 - left / 146096) / 365
  let left := left - (365 * years + years / 4 - years / 100)
  let month := (5 * left + 2) / 153
  let day := left - (153 * month + 2) / 5 + 1
  let year := 400 * Int.fdiv fromMarch 146097 + years
  if month < 10 then ⟨year, month + 3, day⟩ else ⟨year + 1, month - 9, day⟩

/-- The number of a year: four characters at least, a minus sign among them. -/
def yearText (year : Int) : List Char :=
  if year < 0 then '-' :: atLeast 3 year.natAbs else atLeast 4 year.natAbs

def toDate? (d : FarDay) : Option Date := Date.ofParts? d.year.toNat d.month d.day

end FarDay

namespace TimeUnit

/-- The nanoseconds from the start of 1970 to so many units later. -/
def sinceStart (unit : TimeUnit) (count : Int) : Int :=
  match unit.length with
  | .inl months => 86400000000000 * FarDay.startOfMonth (months * count)
  | .inr nanoseconds => nanoseconds * count

/-- The day of the moment so many units after the start of 1970, and its nanoseconds. -/
def reading (unit : TimeUnit) (count : Int) : FarDay × Nat :=
  let n := unit.sinceStart count
  (.ofDays (Int.fdiv n 86400000000000), (Int.fmod n 86400000000000).toNat)

/-- The moment so many units after the start of 1970, as exactly as the unit is. -/
def momentText (unit : TimeUnit) (count : Int) : String :=
  let (d, n) := unit.reading count
  let two (n : Nat) := padded 10 2 n
  let month := FarDay.yearText d.year ++ '-' :: two d.month
  let day := month ++ '-' :: two d.day
  let hour := day ++ 'T' :: two (n / 3600000000000)
  let minute := hour ++ ':' :: two (n / 60000000000 % 60)
  let second := minute ++ ':' :: two (n / 1000000000 % 60)
  String.ofList <| match unit with
    | .year => FarDay.yearText d.year
    | .month => month
    | .week | .day => day
    | .hour => hour
    | .minute => minute
    | .second => second
    | .millisecond => second ++ '.' :: padded 10 3 (n / 1000000 % 1000)
    | .microsecond => second ++ '.' :: padded 10 6 (n / 1000 % 1000000)
    | .nanosecond => second ++ '.' :: padded 10 9 (n % 1000000000)

/-- The moment so many units after the start of 1970, in a year of the calendar and in microseconds.
-/
def moment? (unit : TimeUnit) (count : Int) : Option Moment :=
  let (d, n) := unit.reading count
  d.toDate?.map fun date =>
    let s := n / 1000000000
    { date, clock := ⟨s / 3600, s / 60 % 60, s % 60, n / 1000 % 1000000⟩ }

example : momentText .minute (-1) = "1969-12-31T23:59" := by decide

end TimeUnit

/-- The length of a span in days and parts of a day. -/
abbrev Duration := Int

namespace Duration

/-- The microseconds of so many units, which no more than 999999999 days can have. -/
def ofUnits? (unit : TimeUnit) (count : Int) : Option Duration :=
  match unit, unit.length with
  | .nanosecond, _ | _, .inl _ => none
  | _, .inr nanoseconds =>
    let n := nanoseconds * count / 1000
    if (Int.fdiv n 86400000000).natAbs ≤ 999999999 then some n else none

/-- Whole days, and the microseconds beyond them. -/
def parts (d : Duration) : Int × Nat :=
  (Int.fdiv d 86400000000, (Int.fmod d 86400000000).toNat)

/-- The parts that are not zero, each with its name. -/
def arguments (d : Duration) : List String :=
  let (days, n) := parts d
  (if days ≠ 0 then ["days=" ++ toString days] else [])
    ++ (if n / 1000000 ≠ 0 then ["seconds=" ++ toString (n / 1000000)] else [])
    ++ (if n % 1000000 ≠ 0 then ["microseconds=" ++ toString (n % 1000000)] else [])

/-- The days, and hours, minutes and seconds with colons between. -/
def text (d : Duration) : String :=
  let (days, n) := parts d
  let s := n / 1000000
  let front :=
    if days = 0 then ""
    else toString days ++ (if days.natAbs = 1 then " day, " else " days, ")
  let fraction := if n % 1000000 = 0 then [] else '.' :: padded 10 6 (n % 1000000)
  front ++ String.ofList (decimal (s / 3600) ++ ':' :: padded 10 2 (s / 60 % 60)
    ++ ':' :: padded 10 2 (s % 60) ++ fraction)

end Duration

end DataShape
