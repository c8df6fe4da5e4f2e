import DataShape.Calendar.Iso
import DataShape.Text.Blank

/-!
# Dates from the year down

Reads dates that name the largest part first: a year of four digits, then month, day and time of day
as far as they are given. It is laxer than the standard text: the separator of the date may be one
of several or be left out, zeros in front may be missing between separators, and blanks may stand
before the date and around the offset.
-/

namespace DataShape

/-- What a date text says, from the year down. -/
structure YearFirst where
  year : Nat
  month : Nat := 1
  day : Nat := 1
  hasDay : Bool := false
  clock : Clock := {}
  nanosecond : Nat := 0
  /-- The number of digits after the second. -/
  places : Nat := 0
  offset : Option Offset := none

namespace YearFirst

open Text

/-- What may stand between year, month and day; it must be the same twice. -/
def separators : List Char := ['-', '.', '/', '\\', ' ']

/-- White space of the Latin alphabet. -/
def isGap (c : Char) : Bool := c = ' ' || ('\t' ≤ c && c ≤ '\r')

def skipGap (cs : List Char) : List Char := cs.dropWhile isGap

/-- Two digits; where the part is set off by separators, one digit will do. -/
def part? (isSetOff : Bool) (cs : List Char) : Option (Nat × List Char) :=
  match Iso.digits? 2 cs with
  | some found => some found
  | none => if isSetOff then Iso.digits? 1 cs else none

/-- A part that must lie within bounds. -/
def partWithin? (isSetOff : Bool) (low high : Nat) (cs : List Char) : Option (Nat × List Char) :=
  (part? isSetOff cs).filter fun found => low ≤ found.1 && found.1 ≤ high

/-- Month and day with separators before them. -/
def setOff? (separator : Char) (year : Nat) (cs : List Char) : Option (YearFirst × List Char) := do
  let (month, cs) ← partWithin? true 1 12 cs
  match cs with
  | [] => pure ({ year, month }, [])
  | c :: cs =>
    if c ≠ separator then none
    else
      let (day, cs) ← partWithin? true 1 (Date.daysInMonth year month) cs
      pure ({ year, month, day, hasDay := true }, cs)

/-- Month and day right after the year, neither of which may be missing. -/
def joined? (year : Nat) (cs : List Char) : Option (YearFirst × List Char) := do
  let (month, cs) ← partWithin? false 1 12 cs
  let (day, cs) ← partWithin? false 1 (Date.daysInMonth year month) cs
  pure ({ year, month, day, hasDay := true }, cs)

def date? (cs : List Char) : Option (YearFirst × List Char) := do
  let (year, cs) ← Iso.digits? 4 cs
  match cs with
  | [] => pure ({ year }, [])
  | c :: rest =>
    if isLatinDigit c then joined? year cs
    else if separators.contains c then setOff? c year rest
    else none

/-- The digits after the point of the seconds, of which eighteen are read. -/
def fraction (cs : List Char) : List Char × List Char :=
  let digits := (cs.takeWhile isLatinDigit).take 18
  (digits, cs.drop digits.length)

/-- Seconds, and their fraction if there is one. -/
def second? (isSetOff : Bool) (d : YearFirst) (cs : List Char) :
    Option (YearFirst × List Char) := do
  let (second, cs) ← partWithin? isSetOff 0 59 cs
  match cs with
  | '.' :: cs =>
    let (digits, cs) := fraction cs
    let n := Iso.fractionNanoseconds digits
    let clock := { d.clock with second, microsecond := n / 1000 }
    pure ({ d with clock, nanosecond := n % 1000, places := digits.length }, cs)
  | _ => pure ({ d with clock := { d.clock with second } }, cs)

/-- Minutes, and what follows them. -/
def minute? (isSetOff : Bool) (d : YearFirst) (cs : List Char) :
    Option (YearFirst × List Char) := do
  let (minute, cs) ← partWithin? isSetOff 0 59 cs
  let d := { d with clock := { d.clock with minute } }
  match cs with
  | [] => pure (d, [])
  | c :: rest =>
    if isSetOff && c = ':' then second? true d rest
    else if !isSetOff && isLatinDigit c then second? false d cs
    else pure (d, cs)

/-- A time of day. An hour of one digit must be set off from its minutes. -/
def clock? (d : YearFirst) (cs : List Char) : Option (YearFirst × List Char) := do
  let (hour, rest) ← partWithin? true 0 23 cs
  let hasTwo := rest.length + 2 = cs.length
  let d := { d with clock := { d.clock with hour } }
  match rest with
  | ':' :: rest => minute? true d rest
  | c :: _ =>
    if isLatinDigit c then minute? false d rest
    else if hasTwo then pure (d, rest) else none
  | [] => if hasTwo then pure (d, []) else none

/-- Hours and minutes of an offset, with or without a colon between; the minutes may be missing. -/
def offsetLength? (cs : List Char) : Option (Offset × List Char) := do
  let (hour, cs) ← partWithin? true 0 23 cs
  if cs.isEmpty then pure (hour * 3600000000, [])
  else
    let (minute, cs) ← partWithin? true 0 59 (match cs with
      | ':' :: rest => rest
      | _ => cs)
    pure ((hour * 60 + minute) * 60000000, cs)

/-- An offset and the blanks around it, up to the end. -/
def ending? (d : YearFirst) (cs : List Char) : Option YearFirst :=
  match skipGap cs with
  | [] => some d
  | c :: rest =>
    let found? : Option (Offset × List Char) :=
      if c = 'Z' then some (0, rest)
      else if c = '+' then offsetLength? rest
      else if c = '-' then (offsetLength? rest).map fun found => (-found.1, found.2)
      else none
    match found? with
    | some (offset, rest) =>
      if (skipGap rest).isEmpty then some { d with offset := some offset } else none
    | none => none

/-- A whole text that starts with the digits of a year. -/
def read? (cs : List Char) : Option YearFirst := do
  let (d, cs) ← date? cs
  match cs with
  | [] => pure d
  | c :: cs =>
    if c ≠ 'T' ∧ c ≠ ' ' then none
    else
      let (d, cs) ← clock? d cs
      ending? d cs

/-- The instant in billionths of a second since the start of 1970. -/
def nanosecondsSince1970 (d : YearFirst) : Int :=
  let m : Moment := ⟨⟨d.year, d.month, d.day⟩, d.clock, d.offset, 0⟩
  (m.instant - 719162 * 86400000000) * 1000 + d.nanosecond

/-- Whether the moment can be kept: from year 1 on, and within 64 bits of nanoseconds if it is given
more precisely than to the microsecond. -/
def isKept (d : YearFirst) : Bool :=
  1 ≤ d.year && (d.places ≤ 6 || d.nanosecondsSince1970.natAbs < Nat.pow 2 63)

end YearFirst

end DataShape
