import DataShape.Calendar.Moment

/-!
# Moments from their standard text

Reads back what the standard texts of days, times of day and moments say.
-/

namespace DataShape

open Text

namespace Iso

/-- Digits of a fixed count at the front of a text. -/
def digits? (count : Nat) (cs : List Char) : Option (Nat × List Char) :=
  let front := cs.take count
  if front.length = count then (readDecimal? front).map fun n => (n, cs.drop count) else none

/-- A given character at the front of a text. -/
def after? (c : Char) : List Char → Option (List Char)
  | d :: rest => if d = c then some rest else none
  | [] => none

def date? (cs : List Char) : Option (Date × List Char) := do
  let (year, cs) ← digits? 4 cs
  let cs ← after? '-' cs
  let (month, cs) ← digits? 2 cs
  let cs ← after? '-' cs
  let (day, cs) ← digits? 2 cs
  let date ← Date.ofParts? year month day
  pure (date, cs)

/-- The nanoseconds that the digits of a fraction of a second denote. -/
def fractionNanoseconds (cs : List Char) : Nat :=
  readBase 10 ((cs ++ List.replicate 9 '0').take 9)

/-- Hours and minutes, seconds if there are any, and the fraction as nanoseconds. -/
def clock? (cs : List Char) : Option (Clock × Nat × List Char) := do
  let (hour, cs) ← digits? 2 cs
  let cs ← after? ':' cs
  let (minute, cs) ← digits? 2 cs
  match after? ':' cs with
  | none => pure (⟨hour, minute, 0, 0⟩, 0, cs)
  | some cs =>
    let (second, cs) ← digits? 2 cs
    match after? '.' cs with
    | none => pure (⟨hour, minute, second, 0⟩, 0, cs)
    | some cs =>
      let (fraction, cs) := cs.span isLatinDigit
      let n := fractionNanoseconds fraction
      pure (⟨hour, minute, second, n / 1000⟩, n % 1000, cs)

/-- An offset at the end of a text, or nothing. -/
def offset? (cs : List Char) : Option (Option Offset) :=
  match cs with
  | [] => some none
  | ['Z'] => some (some 0)
  | sign :: cs =>
    if sign = '+' ∨ sign = '-' then
      match clock? cs with
      | some (c, _, []) =>
        let n : Int := c.microseconds
        some (some (if sign = '-' then -n else n))
      | _ => none
    else none

end Iso

def Date.ofIso? (s : String) : Option Date :=
  match Iso.date? s.toList with
  | some (d, []) => some d
  | _ => none

def TimeOfDay.ofIso? (s : String) : Option TimeOfDay := do
  let (clock, _, cs) ← Iso.clock? s.toList
  let offset ← Iso.offset? cs
  pure ⟨clock, offset⟩

/-- A day alone denotes its midnight. -/
def Moment.ofIso? (s : String) : Option Moment := do
  let (date, cs) ← Iso.date? s.toList
  match cs with
  | [] => pure { date := date }
  | separator :: cs =>
    if separator = 'T' ∨ separator = ' ' then
      let (clock, nanosecond, cs) ← Iso.clock? cs
      let offset ← Iso.offset? cs
      pure ⟨date, clock, offset, nanosecond⟩
    else none

end DataShape
