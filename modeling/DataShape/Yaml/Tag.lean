import DataShape.Text.Digits

/-!
# Tags of YAML nodes

A tag says what a node denotes. A plain scalar without a tag has the tag of the first form that its
text fits: truth value, floating-point number, integer, merge mark, nothing, timestamp, value mark,
and else text.
-/

namespace DataShape.Yaml

open Text

abbrev Tag := List Char

namespace Tag

/-- What the tags of the common types start with. -/
def common : Tag := "tag:yaml.org,2002:".toList

def ofName (name : String) : Tag := common ++ name.toList

def null : Tag := ofName "null"

def bool : Tag := ofName "bool"

def int : Tag := ofName "int"

def float : Tag := ofName "float"

def binary : Tag := ofName "binary"

def timestamp : Tag := ofName "timestamp"

def text : Tag := ofName "str"

def sequence : Tag := ofName "seq"

def mapping : Tag := ofName "map"

def set : Tag := ofName "set"

/-- A sequence of single entries. -/
def orderedMap : Tag := ofName "omap"

def pairs : Tag := ofName "pairs"

/-- The tag of the key whose value is merged into its mapping. -/
def merge : Tag := ofName "merge"

/-- The tag of the key whose value stands for its mapping. -/
def value : Tag := ofName "value"

/-- The tag that asks for the tag of a plain node. -/
def plain : Tag := ['!']

/-! ## The forms of plain scalars -/

/-- The truth values by name. -/
def boolWord? : String → Option Bool
  | "yes" | "true" | "on" => some true
  | "no" | "false" | "off" => some false
  | _ => none

/-- A word in small letters, in capitals, or with a capital in front. -/
def isCased (cs : List Char) : Bool :=
  cs.all Char.isLower || cs.all Char.isUpper
    || (cs.head?.any Char.isUpper && (cs.drop 1).all Char.isLower)

def isBool (cs : List Char) : Bool :=
  isCased cs && (boolWord? (String.ofList (cs.map Char.toLower))).isSome

def isNull (cs : List Char) : Bool :=
  cs = [] || cs = ['~'] || (isCased cs && cs.map Char.toLower = "null".toList)

def dropSign (cs : List Char) : List Char :=
  match cs with
  | '-' :: rest | '+' :: rest => rest
  | _ => cs

def isDigitOrBar (c : Char) : Bool := isLatinDigit c || c = '_'

/-- Digits with underscores after the first digit, and what follows. -/
def spanNumber? : List Char → Option (List Char × List Char)
  | c :: rest =>
    if isLatinDigit c then
      let (more, rest) := rest.span isDigitOrBar
      some (c :: more, rest)
    else none
  | [] => none

/-- At least one further part of a number in base sixty: a colon and a number below sixty. -/
def sixtieths? : List Char → Option (List Char)
  | ':' :: a :: b :: rest =>
    if '0' ≤ a ∧ a ≤ '5' ∧ isLatinDigit b then
      if rest.head? = some ':' then sixtieths? rest else some rest
    else if isLatinDigit a then
      if b = ':' then sixtieths? (b :: rest) else some (b :: rest)
    else none
  | [':', a] => if isLatinDigit a then some [] else none
  | _ => none

def isInteger (cs : List Char) : Bool :=
  match dropSign cs with
  | '0' :: 'b' :: c :: rest => (c :: rest).all fun d => d = '0' || d = '1' || d = '_'
  | '0' :: 'x' :: c :: rest => (c :: rest).all fun d => isHexDigit d || d = '_'
  | '0' :: rest => rest.all fun d => isOctalDigit d || d = '_'
  | digits =>
    match spanNumber? digits with
    | some (_, []) => true
    | some (_, rest) => sixtieths? rest = some []
    | none => false

/-- A signed exponent, or nothing. -/
def isExponent : List Char → Bool
  | [] => true
  | e :: sign :: d :: rest =>
    (e = 'e' || e = 'E') && (sign = '+' || sign = '-') && (d :: rest).all isLatinDigit
  | _ => false

def infinityWords : List (List Char) := [".inf", ".Inf", ".INF"].map String.toList

def nanWords : List (List Char) := [".nan", ".NaN", ".NAN"].map String.toList

def isFloat (cs : List Char) : Bool :=
  let body := dropSign cs
  let fits :=
    match body with
    | '.' :: d :: rest =>
      body = cs && isLatinDigit d && isExponent (rest.dropWhile isDigitOrBar)
    | _ =>
      match spanNumber? body with
      | some (_, '.' :: rest) => isExponent (rest.dropWhile isDigitOrBar)
      | some (_, rest) =>
        match sixtieths? rest with
        | some ('.' :: rest) => rest.all isDigitOrBar
        | _ => false
      | none => false
  fits || infinityWords.contains body || nanWords.contains cs

/-- One or two digits, and what follows. -/
def oneOrTwo? : List Char → Option (List Char × List Char)
  | a :: rest =>
    if !isLatinDigit a then none
    else match rest with
      | b :: more => if isLatinDigit b then some ([a, b], more) else some ([a], rest)
      | [] => some ([a], [])
  | [] => none

/-- Digits of a count, and what follows. -/
def exactly? (count : Nat) (cs : List Char) : Option (List Char × List Char) :=
  let front := cs.take count
  if front.length = count ∧ front.all isLatinDigit then some (front, cs.drop count) else none

def isBlankOrTab (c : Char) : Bool := c = ' ' || c = '\t'

/-- The texts of the parts of a timestamp. -/
structure Stamp where
  year : List Char
  month : List Char
  day : List Char
  /-- Hour, minute, second and the digits of the fraction. -/
  clock : Option (List Char × List Char × List Char × List Char) := none
  /-- The sign of the distance from universal time, its hours and its minutes. -/
  zone : Option (Char × List Char × List Char) := none

/-- What may follow the seconds of a timestamp: a `Z`, a signed distance, or nothing. -/
def readZone? (cs : List Char) : Option (Option (Char × List Char × List Char)) :=
  match cs.dropWhile isBlankOrTab with
  | [] => if cs.isEmpty then some none else none
  | ['Z'] => some (some ('Z', [], []))
  | sign :: rest =>
    if sign = '+' ∨ sign = '-' then
      match oneOrTwo? rest with
      | some (hours, []) => some (some (sign, hours, []))
      | some (hours, ':' :: rest) =>
        match exactly? 2 rest with
        | some (minutes, []) => some (some (sign, hours, minutes))
        | _ => none
      | _ => none
    else none

/-- The time of day in a timestamp. -/
def readStampClock? (cs : List Char) :
    Option (List Char × List Char × List Char × List Char × List Char) := do
  let (hour, cs) ← oneOrTwo? cs
  let (minute, cs) ← match cs with | ':' :: rest => exactly? 2 rest | _ => none
  let (second, cs) ← match cs with | ':' :: rest => exactly? 2 rest | _ => none
  let (fraction, cs) := match cs with
    | '.' :: rest => rest.span isLatinDigit
    | _ => ([], cs)
  pure (hour, minute, second, fraction, cs)

/-- A text without the line feed that it may end with. -/
def dropFinalBreak (cs : List Char) : List Char :=
  if cs.getLast? = some '\n' then cs.dropLast else cs

/-- A whole text as a timestamp: year, month and day, then a `T` or blanks, time of day and zone. -/
def readStamp? (cs : List Char) : Option Stamp := do
  let (year, cs) ← exactly? 4 (dropFinalBreak cs)
  let (month, cs) ← match cs with | '-' :: rest => oneOrTwo? rest | _ => none
  let (day, cs) ← match cs with | '-' :: rest => oneOrTwo? rest | _ => none
  match cs with
  | [] => pure { year, month, day }
  | c :: rest =>
    let rest ←
      if c = 'T' ∨ c = 't' then some rest
      else if isBlankOrTab c then some (rest.dropWhile isBlankOrTab)
      else none
    let (hour, minute, second, fraction, rest) ← readStampClock? rest
    let zone ← readZone? rest
    pure ⟨year, month, day, some (hour, minute, second, fraction), zone⟩

/-- A plain timestamp without a time of day has two digits for month and day. -/
def isTimestamp (cs : List Char) : Bool :=
  match readStamp? cs with
  | none => false
  | some stamp => stamp.clock.isSome || (stamp.month.length = 2 && stamp.day.length = 2)

/-- The tag of a plain scalar. A line feed at the end of a longer text does not count. -/
def ofPlain (text : List Char) : Tag :=
  let cs := if text.length = 1 then text else dropFinalBreak text
  if isBool cs then bool
  else if isFloat cs then float
  else if isInteger cs then int
  else if cs = ['<', '<'] then merge
  else if isNull cs then null
  else if isTimestamp cs then timestamp
  else if cs = ['='] then value
  else Tag.text

end Tag

end DataShape.Yaml
