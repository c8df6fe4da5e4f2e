import DataShape.Calendar.Moment
import DataShape.Calendar.Token
import DataShape.Number.Numeral

/-!
# Dates in words

Reads the tokens of a loosely written date: names of months and days, numbers whose role is told by
their size and their neighbours, times of day with or without units, and offsets. A phrase denotes a
moment if its numbers can be given the roles of year, month and day, and the parts that it leaves
out are those of the first day of year 1.
-/

namespace DataShape.Calendar

open Text

/-! ## Vocabulary -/

/-- The place of a word in a list of names, some of which have several forms. Case is ignored. -/
def placeOf? (names : List (List String)) (word : String) : Option Nat :=
  names.findIdx? fun forms => forms.contains (String.ofList (lowerText word.toList))

def weekdays : List (List String) := [
  ["mon", "monday"], ["tue", "tuesday"], ["wed", "wednesday"], ["thu", "thursday"],
  ["fri", "friday"], ["sat", "saturday"], ["sun", "sunday"]]

def months : List (List String) := [
  ["jan", "january"], ["feb", "february"], ["mar", "march"], ["apr", "april"], ["may"],
  ["jun", "june"], ["jul", "july"], ["aug", "august"], ["sep", "sept", "september"],
  ["oct", "october"], ["nov", "november"], ["dec", "december"]]

/-- The number of a month that is named. -/
def monthOf? (word : String) : Option Nat := (placeOf? months word).map (· + 1)

/-- The half of the day that a word names: 0 before noon, 1 after it. -/
def halfOf? (word : String) : Option Nat := placeOf? [["am", "a"], ["pm", "p"]] word

inductive TimeUnit where
  | hour
  | minute
  | second

def TimeUnit.next? : TimeUnit → Option TimeUnit
  | .hour => some .minute
  | .minute => some .second
  | .second => none

def unitOf? (word : String) : Option TimeUnit :=
  match placeOf? [["h", "hour", "hours"], ["m", "minute", "minutes"], ["s", "second", "seconds"]]
    word with
  | some 0 => some .hour
  | some 1 => some .minute
  | some _ => some .second
  | none => none

/-- Whether a token stands between the parts of a date without a meaning of its own. -/
def isFiller (token : String) : Bool :=
  (placeOf? [[" ", ".", ",", ";", "-", "/", "'", "at", "on", "and", "ad", "m", "t", "of", "st",
    "nd", "rd", "th"]] token).isSome

def isUniversal (zone : String) : Bool := (placeOf? [["utc", "gmt", "z"]] zone).isSome

/-- Words that denote a number without digits; no date holds one. -/
def isNumberWord (token : String) : Bool :=
  (placeOf? [["nan", "inf", "infinity"]] token).isSome

/-! ## Numbers -/

/-- A number as it stands in a date: its whole part, and the digits of its fraction. -/
structure Quantity where
  whole : Nat
  fraction : List Char

def Quantity.isWhole (q : Quantity) : Bool := q.fraction.all (· = '0')

/-- The fraction as the next smaller of two units, of which sixty make one. -/
def Quantity.sixtieths (q : Quantity) : Nat :=
  readBase 10 q.fraction * 60 / Nat.pow 10 q.fraction.length

def quantity? (cs : List Char) : Option Quantity :=
  let (whole, rest) := (Floating.latinDigits cs).span isLatinDigit
  match whole, rest with
  | [], _ => none
  | _, [] => some ⟨readBase 10 whole, []⟩
  | _, '.' :: fraction =>
    if fraction.isEmpty || !fraction.all isLatinDigit then none
    else some ⟨readBase 10 whole, fraction⟩
  | _, _ => none

/-- A number that consists of digits only. -/
def wholeNumber? (cs : List Char) : Option Nat := readDecimal? (Floating.latinDigits cs)

/-! ## Phrases -/

/-- What the tokens so far say: the numbers of the date in order, the places among them that are
known to be the year and the month, and the parts of the time of day. -/
structure Phrase where
  numbers : List Nat := []
  /-- Whether the year is written with its century. -/
  hasCentury : Bool := false
  yearAt : Option Nat := none
  monthAt : Option Nat := none
  hour : Option Nat := none
  minute : Option Nat := none
  second : Option Nat := none
  zone : Option String := none
  /-- The offset from universal time in seconds. -/
  offset : Option Int := none

namespace Phrase

def add (n : Nat) (p : Phrase) : Phrase := { p with numbers := p.numbers ++ [n] }

def addYear? (n : Nat) (p : Phrase) : Option Phrase :=
  if p.yearAt.isSome then none
  else some { p.add n with yearAt := some p.numbers.length, hasCentury := true }

def addMonth? (n : Nat) (p : Phrase) : Option Phrase :=
  if p.monthAt.isSome then none else some { p.add n with monthAt := some p.numbers.length }

/-- Adds a number that is written out; one of more than two digits is the year. -/
def addText? (cs : List Char) (p : Phrase) : Option Phrase := do
  let n ← wholeNumber? cs
  if 2 < cs.length then p.addYear? n else pure (p.add n)

/-- Adds the whole part of a number; one above a hundred is the year. -/
def addQuantity? (q : Quantity) (p : Phrase) : Option Phrase :=
  if 100 < q.whole ∨ (q.whole = 100 ∧ !q.isWhole) then p.addYear? q.whole else some (p.add q.whole)

/-- Adds a month by its name, or a number. -/
def addNamed? (token : String) (p : Phrase) : Option Phrase :=
  match monthOf? token with
  | some n => p.addMonth? n
  | none => p.addText? token.toList

/-- Sets the hour, and the minute by its fraction. -/
def setHours (q : Quantity) (p : Phrase) : Phrase :=
  { p with hour := some q.whole, minute := if q.isWhole then p.minute else some q.sixtieths }

/-- Sets the minute, and the second by its fraction. -/
def setMinutes (q : Quantity) (p : Phrase) : Phrase :=
  { p with minute := some q.whole, second := if q.isWhole then none else some q.sixtieths }

def setSeconds? (cs : List Char) (p : Phrase) : Option Phrase :=
  (quantity? cs).map fun q => { p with second := some q.whole }

def setUnit? (unit? : Option TimeUnit) (token : List Char) (q : Quantity) (p : Phrase) :
    Option Phrase :=
  match unit? with
  | some .hour => some (p.setHours q)
  | some .minute => some (p.setMinutes q)
  | some .second => p.setSeconds? token
  | none => some p

/-- An hour of the half of a day as an hour of the day. -/
def hourOf (half hour : Nat) : Nat :=
  if half = 1 ∧ hour < 12 then hour + 12 else if half = 0 ∧ hour = 12 then 0 else hour

def setHalf (half hour : Nat) (p : Phrase) : Phrase := { p with hour := some (hourOf half hour) }

/-- The last day that a number may be, by what is known of month and year. -/
def lastDay (p : Phrase) : Nat :=
  match p.monthAt.bind fun i => p.numbers[i]? with
  | none => 31
  | some month => Date.daysInMonth ((p.yearAt.bind fun i => p.numbers[i]?).getD 2000) month

def mayBeDay (p : Phrase) (q : Quantity) : Bool :=
  1 ≤ q.whole && (q.whole < p.lastDay || (q.whole = p.lastDay && q.isWhole))

/-- What one token leads to: the phrase with it, and the number of tokens after it that are used up.
-/
abbrev Step := Option (Phrase × Nat)

/-- The unit of a number by the words beside it, and the number of words after it that are used up.
A word before the number counts where none follows, and then for the unit below it. -/
def unitBeside? (before rest : List String) : Option (Option TimeUnit × Nat) :=
  let following? := match rest with
    | word :: more =>
      match unitOf? word with
      | some u => some (some u, 1)
      | none =>
        match word, more with
        | " ", word :: _ => (unitOf? word).map fun u => (some u, 2)
        | _, _ => none
    | [] => none
  match following?, before with
  | some found, _ => some found
  | none, [] => none
  | none, word :: more =>
    match unitOf? word with
    | some u => some (u.next?, 0)
    | none =>
      match word, more, rest with
      | " ", word :: _, [] => (unitOf? word).map fun u => (u.next?, 0)
      | _, _, _ => none

/-- Year, month and day in six digits, or a time of day where a date stands before it or a fraction
follows. -/
def sixDigits? (cs : List Char) (p : Phrase) : Option Phrase :=
  if p.numbers.isEmpty && !cs.contains '.' then
    p.addText? (cs.take 2) >>= addText? ((cs.drop 2).take 2) >>= addText? (cs.drop 4)
  else do
    let hour ← wholeNumber? (cs.take 2)
    let minute ← wholeNumber? ((cs.drop 2).take 2)
    { p with hour := some hour, minute := some minute }.setSeconds? (cs.drop 4)

/-- Year, month and day in eight digits, then hour, minute and second in two each. -/
def joinedDigits? (cs : List Char) (p : Phrase) : Option Phrase := do
  let p ← p.addText? (cs.take 4) >>= addText? ((cs.drop 4).take 2) >>= addText? ((cs.drop 6).take 2)
  if cs.length = 8 then pure p
  else
    let hour ← wholeNumber? ((cs.drop 8).take 2)
    let minute ← wholeNumber? ((cs.drop 10).take 2)
    let p := { p with hour := some hour, minute := some minute }
    if cs.length = 12 then pure p else p.setSeconds? (cs.drop 12)

/-- A time of day in four digits or an hour in two. -/
def shortTime? (cs : List Char) (p : Phrase) : Option Phrase := do
  let hour ← wholeNumber? (cs.take 2)
  let p := { p with hour := some hour }
  if cs.length = 2 then pure p
  else
    let minute ← wholeNumber? (cs.drop 2)
    pure { p with minute := some minute }

/-- The rest of a time of day after its hour and a colon. -/
def colonTime? (q : Quantity) (minutes : String) (rest : List String) (p : Phrase) : Step := do
  let minutes ← quantity? minutes.toList
  let p := { p with hour := some q.whole }.setMinutes minutes
  match rest with
  | ":" :: seconds :: _ => (p.setSeconds? seconds.toList).map (·, 4)
  | _ => pure (p, 2)

/-- The rest of a date after a separator, which may stand a second time. -/
def separated? (separator : String) (rest : List String) (p : Phrase) : Step :=
  match rest with
  | [] => some (p, 1)
  | second :: rest =>
    if isFiller second then some (p, 1)
    else do
      let p ← p.addNamed? second
      match rest with
      | again :: rest =>
        if again ≠ separator then pure (p, 2)
        else
          let third ← rest.head?
          (p.addNamed? third).map (·, 4)
      | [] => pure (p, 2)

/-- A number that nothing else tells about, with the half of the day that may follow. -/
def loose? (q : Quantity) (rest : List String) (p : Phrase) : Step :=
  match rest with
  | [] => (p.addQuantity? q).map (·, 0)
  | word :: more =>
    if isFiller word then
      match more.head?.bind halfOf? with
      | some half => some (p.setHalf half q.whole, 2)
      | none => (p.addQuantity? q).map (·, 1)
    else
      match halfOf? word with
      | some half =>
        if q.whole < 24 then some (p.setHalf half q.whole, 1)
        else if p.mayBeDay q then (p.addQuantity? q).map (·, 0)
        else none
      | none => if p.mayBeDay q then (p.addQuantity? q).map (·, 0) else none

/-- Whether a number of two or four digits after a full date is a time of day. -/
def isShortTime (p : Phrase) (cs : List Char) (rest : List String) : Bool :=
  p.numbers.length = 3 && (cs.length = 2 || cs.length = 4) && p.hour.isNone
    && rest.head?.all fun word => word ≠ ":" && (unitOf? word).isNone

/-- Reads a number. -/
def number? (before : List String) (token : String) (q : Quantity) (rest : List String)
    (p : Phrase) : Step :=
  let cs := token.toList
  let point := (cs.takeWhile (· ≠ '.')).length
  if p.isShortTime cs rest then (p.shortTime? cs).map (·, 0)
  else if cs.length = 6 ∨ (6 < cs.length ∧ point = 6) then (p.sixDigits? cs).map (·, 0)
  else if cs.length = 8 ∨ cs.length = 12 ∨ cs.length = 14 then (p.joinedDigits? cs).map (·, 0)
  else match unitBeside? before rest with
  | some (unit?, used) => (p.setUnit? unit? cs q).map (·, used)
  | none =>
    match rest with
    | ":" :: minutes :: more => p.colonTime? q minutes more
    | word :: more =>
      if ["-", "/", "."].contains word then p.addText? cs >>= separated? word more
      else p.loose? q rest
    | [] => p.loose? q rest

/-- Reads the name of a month, and a day or year that is bound to it. -/
def month? (n : Nat) (rest : List String) (p : Phrase) : Step := do
  let p ← p.addMonth? n
  match rest with
  | separator :: more =>
    if ["-", "/"].contains separator then
      let second ← more.head?
      let p ← p.addText? second.toList
      match more.tail with
      | again :: more =>
        if again ≠ separator then pure (p, 2)
        else
          let third ← more.head?
          (p.addText? third.toList).map (·, 4)
      | [] => pure (p, 2)
    else
      match rest with
      | " " :: word :: " " :: year :: _ =>
        if String.ofList (lowerText word.toList) ≠ "of" then pure (p, 0)
        else
          match wholeNumber? year.toList with
          | some n => (p.addYear? (if n < 100 then 2000 + n else n)).map (·, 4)
          | none => pure (p, 4)
      | _ => pure (p, 0)
  | [] => pure (p, 0)

/-- Whether a token may name a time zone: a few capitals after a time of day. -/
def mayBeZone (p : Phrase) (token : String) : Bool :=
  p.hour.isSome && p.zone.isNone && token.length ≤ 5
    && (token.toList.all (fun c => 'A' ≤ c && c ≤ 'Z') || token = "z")

/-- Reads the name of a zone. Where a sign follows, the name of universal time says nothing. -/
def zone? (token : String) (rest : List String) (p : Phrase) : Step :=
  match rest with
  | "+" :: _ | "-" :: _ =>
    some ({ p with zone := if isUniversal token then none else some token }, 0)
  | _ => some ({ p with zone := some token, offset := if token = "z" then some 0 else none }, 0)

/-- Hours and minutes of an offset, and the number of tokens that they take. -/
def offsetParts? (digits : String) (rest : List String) : Option (Nat × Nat × Nat) := do
  let cs := digits.toList
  if cs.length = 4 then
    let hour ← wholeNumber? (cs.take 2)
    let minute ← wholeNumber? (cs.drop 2)
    pure (hour, minute, 1)
  else
    match rest with
    | ":" :: minutes :: _ =>
      let hour ← wholeNumber? cs
      let minute ← wholeNumber? minutes.toList
      pure (hour, minute, 3)
    | ":" :: [] => none
    | _ => if 2 < cs.length then none else (wholeNumber? cs).map fun hour => (hour, 0, 1)

/-- Reads an offset, and the name of its zone if it follows in parentheses. -/
def offset? (isNegative : Bool) (rest : List String) (p : Phrase) : Step := do
  let digits ← rest.head?
  let (hour, minute, used) ← offsetParts? digits rest.tail
  let seconds : Int := hour * 3600 + minute * 60
  let p' := { p with offset := some (if isNegative then -seconds else seconds) }
  match rest.drop used with
  | filler :: "(" :: name :: ")" :: _ =>
    if isFiller filler && 3 ≤ name.length && p.mayBeZone name then
      pure ({ p' with zone := some name }, used + 4)
    else pure (p', used)
  | _ => pure (p', used)

/-- Applies the half of the day to an hour that stands before it. -/
def half? (half : Nat) (p : Phrase) : Step :=
  match p.hour with
  | some hour => if hour ≤ 12 then some (p.setHalf half hour, 0) else none
  | none => none

/-- Reads a token, given those before it, the nearest first, and those after it. -/
def token? (before : List String) (token : String) (rest : List String) (p : Phrase) : Step :=
  match quantity? token.toList with
  | some q => p.number? before token q rest
  | none =>
    if isNumberWord token then none
    else if (placeOf? weekdays token).isSome then some (p, 0)
    else match monthOf? token, halfOf? token with
    | some n, _ => p.month? n rest
    | none, some half => p.half? half
    | none, none =>
      if p.offset.isNone && p.mayBeZone token then p.zone? token rest
      else if p.hour.isSome && (token = "+" || token = "-") then p.offset? (token = "-") rest
      else if isFiller token then some (p, 0)
      else none

/-- Reads all tokens. -/
def read? (before rest : List String) (p : Phrase) : Option Phrase :=
  match rest with
  | [] => some p
  | token :: more => do
    let (p, used) ← p.token? before token more
    read? ((more.take used).reverse ++ token :: before) (more.drop used) p
termination_by rest.length
decreasing_by simp only [List.length_drop, List.length_cons]; omega

/-! ## What a phrase denotes -/

/-- Year, month and day as far as they are given. -/
structure Roles where
  year : Option Nat := none
  month : Option Nat := none
  day : Option Nat := none

/-- The roles where enough places are known: the third of three numbers is the day. -/
def knownRoles (p : Phrase) : Roles :=
  let at? (i? : Option Nat) : Option Nat := i?.bind fun i => p.numbers[i]?
  let left := [0, 1, 2].filter fun i => some i ≠ p.yearAt && some i ≠ p.monthAt
  { year := at? p.yearAt, month := at? p.monthAt,
    day := if p.numbers.length = 3 then at? left.head? else none }

/-- The roles of three numbers by their size and order. -/
def threeRoles (p : Phrase) (a b c : Nat) : Roles :=
  match p.monthAt with
  | some 0 => if 31 < b then ⟨b, a, c⟩ else ⟨c, a, b⟩
  | some 1 => if 31 < a then ⟨a, b, c⟩ else ⟨c, b, a⟩
  | some _ => if 31 < b then ⟨b, c, a⟩ else ⟨a, c, b⟩
  | none =>
    if 31 < a ∨ p.yearAt = some 0 then ⟨a, b, c⟩
    else if 12 < a then ⟨c, b, a⟩
    else ⟨c, a, b⟩

/-- The role of a number beside the month or alone. -/
def loneRole (n : Nat) (month : Option Nat) : Roles :=
  if 31 < n then { year := n, month } else { month, day := n }

/-- The roles of the numbers, if there are at most three. -/
def roles? (p : Phrase) : Option Roles :=
  let known := p.yearAt.toList.length + p.monthAt.toList.length
  let count := p.numbers.length
  if (0 < count ∧ count = known) ∨ (count = 3 ∧ known = 2) then some p.knownRoles
  else match p.numbers, p.monthAt with
  | [], _ => some {}
  | [a], _ => some (loneRole a none)
  | [a, b], some 0 => some (loneRole b a)
  | [a, b], some _ => some (loneRole a b)
  | [a, b], none =>
    some (if 31 < a then { year := a, month := b }
      else if 31 < b then { year := b, month := a }
      else { month := a, day := b })
  | [a, b, c], _ => some (p.threeRoles a b c)
  | _, _ => none

/-- A year without its century counts within this one. -/
def fullYear (p : Phrase) (year : Nat) : Nat :=
  if year < 100 ∧ !p.hasCentury then 2000 + year else year

/-- Whether the zone is universal time or has an offset of less than a day. -/
def hasPlace (p : Phrase) : Bool :=
  match p.zone, p.offset with
  | none, none => true
  | some zone, none => isUniversal zone
  | zone?, some offset =>
    offset.natAbs < 86400 || zone?.any isUniversal

/-- Whether the phrase denotes a moment: it says something, and its parts fit together. -/
def isMoment (p : Phrase) : Bool :=
  match p.roles? with
  | none => false
  | some r =>
    let year? := r.year.map p.fullYear
    let isEmpty := p.numbers.isEmpty && p.hour.isNone && p.minute.isNone && p.second.isNone
    let date? := Date.ofParts? (year?.getD 1) (r.month.getD 1) (r.day.getD 1)
    let clock? :=
      (Clock.ofParts (p.hour.getD 0) (p.minute.getD 0) (p.second.getD 0) 0).toOption
    !isEmpty && date?.isSome && clock?.isSome && p.hasPlace

end Phrase

/-- Whether a text is a date in words. -/
def isPhrase (cs : List Char) : Bool :=
  (Phrase.read? [] (tokens cs) {}).any Phrase.isMoment

end DataShape.Calendar
