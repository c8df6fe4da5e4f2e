import DataShape.Calendar.Phrase
import DataShape.Calendar.YearFirst

/-!
# Recognising dates

Whether a text is a date. A text from the year down decides for itself. Otherwise it must not be a
small number, and be a date in numbers between separators, a year, a quarter of a year, a month of a
year, or a date in words.
-/

namespace DataShape.Calendar

open Text

/-- Texts that stand for the lack of a date. -/
def absences : List String := ["NaT", "nat", "NAT", "nan", "NaN", "NAN"]

/-- Texts that stand for the present. -/
def presents : List String := ["now", "today"]

/-- Whether a text is a number below a thousand that does not start with a zero. -/
def isSmallNumber (cs : List Char) : Bool :=
  let body := (trimWhere YearFirst.isGap cs).dropWhile fun c => c = '-' || c = '+'
  let signs := (trimWhere YearFirst.isGap cs).length - body.length
  let isNegative := (trimWhere YearFirst.isGap cs).head? = some '-'
  cs.head? ≠ some '0' && signs ≤ 1
    && body.all (fun c => isLatinDigit c || c = '.') && body.any isLatinDigit && body.count '.' ≤ 1
    && (isNegative || readBase 10 (body.takeWhile isLatinDigit) < 1000)

/-- The number of a field that consists of digits. -/
def field? (widths : List Nat) (cs : List Char) : Option Nat :=
  if widths.contains cs.length then readDecimal? cs else none

/-- A day that may come before its month where the month is out of range. -/
def dayOrMonthFirst (first second year : Nat) : Bool :=
  if 12 < first then (Date.ofParts? year second first).isSome
  else (Date.ofParts? year first second).isSome

/-- Decides on a date in numbers, the month or the day first and the year last; other texts are left
undecided. -/
def yearLast? (cs : List Char) : Option Bool :=
  match cs.splitOnP fun c => c = ' ' || c = '-' || c = '.' || c = '/' with
  | [first, second, year] => do
    let first ← field? [1, 2] first
    let second ← field? [1, 2] second
    let year ← field? [4] year
    if year < 1000 then none else pure (dayOrMonthFirst first second year)
  | [month, year] => do
    if cs.contains '.' then none
    else
      let month ← field? [2] month
      let year ← field? [4] year
      if year < 1000 then none else pure (Date.ofParts? year month 1).isSome
  | _ => none

def isYear (n : Int) : Bool := 1 ≤ n && n ≤ 9999

/-- A quarter and a year before or after it, with a `Q` between them and perhaps a hyphen. The year
has two digits or four. -/
def quarter? (cs : List Char) : Option (Int × Int) :=
  let front := cs.takeWhile fun c => c ≠ 'Q' && c ≠ 'q'
  match cs.drop front.length with
  | [] => none
  | _ :: back =>
    let parts? : Option (List Char × List Char) :=
      if front.length = 1 then
        let year := if back.length % 2 = 1 && back.head? = some '-' then back.tail else back
        if year.length = 2 ∨ year.length = 4 then some (front, year) else none
      else
        let year :=
          if front.length % 2 = 1 && front.getLast? = some '-' then front.dropLast else front
        if back.length = 1 ∧ (year.length = 2 ∨ year.length = 4) then some (back, year) else none
    match parts? with
    | none => none
    | some (quarter, year) =>
      match Floating.readInteger? quarter, Floating.readInteger? year with
      | some q, some y => some (q, if year.length = 2 then 2000 + y else y)
      | _, _ => none

/-- Decides on a quarter of a year; other texts are left undecided. -/
def isQuarter? (cs : List Char) : Option Bool :=
  match quarter? cs with
  | none => none
  | some (quarter, year) =>
    if quarter < 1 ∨ 4 < quarter then some false
    else if isYear year then some true else none

/-- Whether a text is a year in four characters. -/
def isShortYear (cs : List Char) : Bool :=
  cs.length = 4 && (Floating.readInteger? cs).any isYear

/-- Whether a text is the short name of a month and a year of four digits. -/
def isMonthOfYear (cs : List Char) : Bool :=
  let rest := cs.drop 3
  (monthOf? (String.ofList (cs.take 3))).isSome && rest.head?.any isBlank
    && ((field? [4] (Floating.latinDigits (rest.dropWhile isBlank))).any fun n => isYear n)

/-- Whether a text that does not go from the year down is a date. -/
def isLooseDate (cs : List Char) : Bool :=
  if isSmallNumber cs then false
  else match yearLast? cs with
  | some decision => decision
  | none =>
    if isShortYear cs then true
    else match isQuarter? cs with
    | some decision => decision
    | none => isMonthOfYear cs || isPhrase cs

/-- A hyphen before a full date is skipped where the date can also be read word by word. -/
def isHyphenated (d : YearFirst) (cs : List Char) : Bool := d.hasDay && 1000 ≤ d.year && isPhrase cs

/-- Whether a text is a date. Null characters at its end count for nothing. -/
def isDateText (s : String) : Bool :=
  let cs := (s.toList.reverse.dropWhile (· = '\x00')).reverse
  let text := String.ofList cs
  if s.toList.all isBlank || cs.isEmpty || absences.contains text then false
  else if presents.contains text then true
  else
    let trimmed := YearFirst.skipGap cs
    let isSigned := trimmed.head? = some '-'
    match YearFirst.read? (if isSigned then trimmed.tail else trimmed) with
    | some d =>
      if cs.head? = some '-' then isHyphenated d cs else d.isKept
    | none => isLooseDate cs

end DataShape.Calendar
