import DataShape.Calendar.Date
import DataShape.Number.Floating

/-!
# Times of day and moments

A moment is a day with a time of day and, where it is known, the distance of the local clock from
universal time. Two moments with known distances are compared by the instant they denote; a moment
without one is never equal to a moment with one.
-/

namespace DataShape

open Text

structure Clock where
  hour : Nat := 0
  minute : Nat := 0
  second : Nat := 0
  microsecond : Nat := 0
deriving DecidableEq, Inhabited

/-- The distance of a local clock from universal time, in microseconds. -/
abbrev Offset := Int

structure TimeOfDay where
  clock : Clock
  offset : Option Offset := none
deriving DecidableEq, Inhabited

structure Moment where
  date : Date
  clock : Clock := {}
  offset : Option Offset := none
  /-- Billionths of a second beyond the microsecond, which only stamped moments have. -/
  nanosecond : Nat := 0
deriving DecidableEq, Inhabited

namespace Clock

/-- What makes four numbers no time of day. -/
inductive Defect where
  | hour
  | minute
  | second
deriving DecidableEq

def Defect.message : Defect → String
  | .hour => "hour must be in 0..23"
  | .minute => "minute must be in 0..59"
  | .second => "second must be in 0..59"

def ofParts (hour minute second microsecond : Nat) : Except Defect Clock :=
  if 23 < hour then .error .hour
  else if 59 < minute then .error .minute
  else if 59 < second then .error .second
  else .ok ⟨hour, minute, second, microsecond⟩

def microseconds (c : Clock) : Nat :=
  ((c.hour * 60 + c.minute) * 60 + c.second) * 1000000 + c.microsecond

/-- Hours, minutes and seconds with colons between, and the fraction if there is one. -/
def iso (c : Clock) (nanosecond : Nat) : String :=
  let two (n : Nat) := padded 10 2 n
  let fraction :=
    if nanosecond ≠ 0 then '.' :: padded 10 6 c.microsecond ++ padded 10 3 nanosecond
    else if c.microsecond ≠ 0 then '.' :: padded 10 6 c.microsecond
    else []
  String.ofList (two c.hour ++ ':' :: two c.minute ++ ':' :: two c.second ++ fraction)

end Clock

/-- A distance from universal time as signed hours and minutes, with seconds if there are any. -/
def Offset.iso (o : Offset) : String :=
  let n := o.natAbs
  let s := n / 1000000
  let two (n : Nat) := padded 10 2 n
  let seconds :=
    if n % 60000000 = 0 then []
    else ':' :: two (s % 60)
      ++ (if n % 1000000 = 0 then [] else '.' :: padded 10 6 (n % 1000000))
  let sign := if o < 0 then '-' else '+'
  String.ofList (sign :: two (s / 3600) ++ ':' :: two (s / 60 % 60) ++ seconds)

def TimeOfDay.iso (t : TimeOfDay) : String :=
  t.clock.iso 0 ++ (t.offset.elim "" Offset.iso)

/-- The seconds since midnight of universal time, where the offset is known; part of a second in the
offset is left out. -/
def TimeOfDay.universalSecond (t : TimeOfDay) : Int :=
  t.clock.microseconds / 1000000 - Int.fdiv (t.offset.getD 0) 1000000

/-- Whether two times of day denote one time of a day, or one reading of an unplaced clock. -/
def TimeOfDay.same (a b : TimeOfDay) : Bool :=
  a.offset.isSome == b.offset.isSome && a.universalSecond == b.universalSecond
    && a.clock.microsecond == b.clock.microsecond

/-- The microseconds since midnight of universal time, where the offset is known. -/
def TimeOfDay.universalMicrosecond (t : TimeOfDay) : Int :=
  t.clock.microseconds - t.offset.getD 0

/-- Whether two times of day are one key: parts of a second in the offsets tell them apart. -/
def TimeOfDay.sameKey (a b : TimeOfDay) : Bool :=
  a.same b && a.universalMicrosecond == b.universalMicrosecond

namespace Moment

/-- Day and time of day with a separator between, then the offset. -/
def iso (separator : String) (m : Moment) : String :=
  m.date.iso ++ separator ++ m.clock.iso m.nanosecond ++ (m.offset.elim "" Offset.iso)

/-- Microseconds of the local clock since the start of year 1. -/
def localMicroseconds (m : Moment) : Int :=
  (m.date.ordinal - 1) * 86400000000 + m.clock.microseconds

/-- The instant in microseconds, where the offset is known. -/
def instant (m : Moment) : Int := m.localMicroseconds - m.offset.getD 0

/-- The nanoseconds from the start of 1970 to the instant. -/
def sinceStart (m : Moment) : Int :=
  (m.instant - 719162 * 86400000000) * 1000 + m.nanosecond

/-- Whether two moments denote one instant, or one reading of an unplaced clock. -/
def same (a b : Moment) : Bool :=
  a.offset.isSome == b.offset.isSome && a.instant == b.instant && a.nanosecond == b.nanosecond

/-- The whole seconds that a number of seconds falls into, once rounded to microseconds. -/
def wholeSecond (q : Rat) : Int :=
  let n := q.num.natAbs * 1000000
  let rounded : Int := Floating.nearest n q.den
  Int.fdiv (if q.num < 0 then -rounded else rounded) 1000000

/-- The seconds since the start of 1970 that a moment of the calendar can have. The first day of
year 1 is left out, since the day before a moment must belong to the calendar too. -/
def isReachable (seconds : Int) : Bool := -62135510400 ≤ seconds && seconds ≤ 253402300799

end Moment

end DataShape
