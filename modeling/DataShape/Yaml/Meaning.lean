import DataShape.Number.Numeral
import DataShape.Value.Equality
import DataShape.Yaml.Node

/-!
# What YAML nodes denote

The value of a node by its tag. A collection is filled in a later round than the one in which it is
met, so of several problems in one document the one that is met in the earliest round counts, and of
these the first.
-/

namespace DataShape.Yaml

open Text

/-! ## Scalars -/

def Node.tag : Node → Tag
  | .scalar tag _ | .sequence tag _ | .mapping tag _ => tag

def Node.withTag (tag : Tag) : Node → Node
  | .scalar _ text => .scalar tag text
  | .sequence _ items => .sequence tag items
  | .mapping _ entries => .mapping tag entries

/-- The text of a node that is used as a scalar. A mapping stands for the value of its value key. -/
def Node.text? : Node → Option (List Char)
  | .scalar _ text => some text
  | .sequence .. => none
  | .mapping _ entries => go entries
where
  go : List (Node × Node) → Option (List Char)
    | [] => none
    | (k, v) :: rest => if k.tag = Tag.value then v.text? else go rest

/-- A number after an optional sign. -/
def unsigned (cs : List Char) : Except Problem (Bool × List Char) :=
  match cs with
  | [] => .error .emptyNumber
  | _ => .ok (Numeral.sign cs)

/-- A whole text as an integer in a base. -/
def integerIn (base : Nat) (cs : List Char) : Except Problem Int :=
  match Floating.readInBase? base cs with
  | none => .error (.notInteger base cs)
  | some (n, digits) =>
    if base = 10 ∧ digitLimit < digits then .error (.tooManyDigits digits) else .ok n

/-- The number whose digits in base sixty are given, the highest first. -/
def sixtyfold (digits : List Int) : Int := digits.foldl (fun n d => n * 60 + d) 0

/-- The parts of a text between its colons. -/
def sixtyParts (cs : List Char) : List (List Char) := cs.splitOnP (· = ':')

def readMagnitude (cs : List Char) : Except Problem Int :=
  match cs with
  | [] => .error .emptyNumber
  | ['0'] => .ok 0
  | '0' :: 'b' :: rest => integerIn 2 rest
  | '0' :: 'x' :: rest => integerIn 16 rest
  | '0' :: _ => integerIn 8 cs
  | _ =>
    if cs.contains ':' then ((sixtyParts cs).mapM (integerIn 10)).map sixtyfold
    else integerIn 10 cs

def readInteger (text : List Char) : Except Problem Int := do
  let (negative, cs) ← unsigned (text.filter (· ≠ '_'))
  let n ← readMagnitude cs
  pure (if negative then -n else n)

def floatOf (cs : List Char) : Except Problem Floating :=
  match Floating.read? (String.ofList cs) with
  | some x => .ok x
  | none => .error (.notFloat cs)

/-- The number whose digits in base sixty are given, the lowest first. -/
def sixtyfoldFloat : List Floating → (unit : Nat) → Floating → Floating
  | [], _, sum => sum
  | d :: rest, unit, sum =>
    let f := Floating.Format.double
    sixtyfoldFloat rest (unit * 60) (f.add sum (f.mul d (f.ofRat unit)))

def readFloat (text : List Char) : Except Problem Floating := do
  let (negative, cs) ← unsigned (lowerText (text.filter (· ≠ '_')))
  let x ←
    if cs = ".inf".toList then pure (.infinite false)
    else if cs = ".nan".toList then pure .nan
    else if cs.contains ':' then do
      let digits ← (sixtyParts cs).mapM floatOf
      pure (sixtyfoldFloat digits.reverse 1 .zero)
    else floatOf cs
  pure (if negative then x.negate else x)

def zoneOf (sign : Char) (hours minutes : List Char) : Except Problem Offset :=
  let size : Int := (readBase 10 hours * 60 + readBase 10 minutes) * 60000000
  let offset := if sign = '-' then -size else size
  if 86400000000 ≤ size then .error (.badZone offset) else .ok offset

def ofDateDefect {α : Type} : Except Date.Defect α → Except Problem α := Except.mapError .badDate

/-- A day, or a moment if a time of day is given. -/
def readTimestamp (text : List Char) : Except Problem Value := do
  let some stamp := Tag.readStamp? text | throw .notTimestamp
  let dateOf :=
    Date.ofParts (readBase 10 stamp.year) (readBase 10 stamp.month) (readBase 10 stamp.day)
  match stamp.clock with
  | none => return .date (← ofDateDefect dateOf)
  | some (hour, minute, second, fraction) =>
    let microsecond := readBase 10 ((fraction ++ List.replicate 6 '0').take 6)
    let offset ← match stamp.zone with
      | none => pure none
      | some (sign, hours, minutes) => some <$> zoneOf sign hours minutes
    let date ← ofDateDefect dateOf
    let clock ← (Clock.ofParts (readBase 10 hour) (readBase 10 minute) (readBase 10 second)
      microsecond).mapError .badClock
    return .moment { date, clock, offset }

/-! ### Bytes in base 64 -/

def sixBits? (c : Char) : Option Nat :=
  if 'A' ≤ c ∧ c ≤ 'Z' then some (c.toNat - 65)
  else if 'a' ≤ c ∧ c ≤ 'z' then some (c.toNat - 71)
  else if isLatinDigit c then some (c.toNat + 4)
  else if c = '+' then some 62
  else if c = '/' then some 63
  else none

/-- The bytes of digits in base 64, of which `held` were read but not yet written, with the padding
signs after them. Other characters do not count. -/
def decodeBytes : List Char → (held : List Nat) → (padding : Nat) → Option (List UInt8)
  | [], held, _ => if held.isEmpty then some [] else none
  | '=' :: rest, held, padding =>
    if 2 ≤ held.length then
      if 4 ≤ held.length + padding + 1 then some [] else decodeBytes rest held (padding + 1)
    else decodeBytes rest held padding
  | c :: rest, held, padding =>
    match sixBits? c, held with
    | none, _ => decodeBytes rest held padding
    | some d, [] => decodeBytes rest [d] 0
    | some d, [a] =>
      (decodeBytes rest [a, d] 0).map (UInt8.ofNat (a * 4 + d / 16) :: ·)
    | some d, [a, b] =>
      (decodeBytes rest [a, b, d] 0).map (UInt8.ofNat (b % 16 * 16 + d / 4) :: ·)
    | some d, _ :: _ :: b :: _ =>
      (decodeBytes rest [] 0).map (UInt8.ofNat (b % 4 * 64 + d) :: ·)

def readBytesText (text : List Char) : Except Problem (List UInt8) :=
  if text.all fun c => c.toNat < 128 then
    match decodeBytes text [] 0 with
    | some bytes => .ok bytes
    | none => .error .malformed
  else .error .malformed

/-- The value of a scalar by its tag, if the tag is one of scalars. -/
def scalarValue? (tag : Tag) : Option (List Char → Except Problem Value) :=
  if tag = Tag.null then some fun _ => .ok .null
  else if tag = Tag.bool then some fun text =>
    match Tag.boolWord? (String.ofList (lowerText text)) with
    | some b => .ok (.bool b)
    | none => .error (.notBoolean (String.ofList (lowerText text)))
  else if tag = Tag.int then some fun text => (readInteger text).map .int
  else if tag = Tag.float then some fun text => (readFloat text).map .float
  else if tag = Tag.binary then some fun text => (readBytesText text).map .bytes
  else if tag = Tag.timestamp then some readTimestamp
  else if tag = Tag.text then some fun text => .ok (.text (String.ofList text))
  else none

/-! ## Collections -/

mutual

/-- The entries that a mapping gets from others, and its own. A value key of a mapping is a text. -/
def flattenEntries : List (Node × Node) → Option (List (Node × Node) × List (Node × Node))
  | [] => some ([], [])
  | (k, v) :: rest =>
    if k.tag = Tag.merge then do
      let first ← v.mergeSource
      let (merged, own) ← flattenEntries rest
      some (first ++ merged, own)
    else do
      let (merged, own) ← flattenEntries rest
      some (merged, (if k.tag = Tag.value then k.withTag Tag.text else k, v) :: own)

/-- The entries that are merged from a mapping, or from several of which the last is put first. -/
def Node.mergeSource : Node → Option (List (Node × Node))
  | .mapping _ entries => (flattenEntries entries).map fun (merged, own) => merged ++ own
  | .sequence _ items => flattenItems items
  | .scalar .. => none

def flattenItems : List Node → Option (List (Node × Node))
  | [] => some []
  | .mapping _ entries :: rest => do
    let (merged, own) ← flattenEntries entries
    let later ← flattenItems rest
    some (later ++ merged ++ own)
  | _ => none

end

/-- The entries of a mapping node, the merged ones first. -/
def Node.entries? : Node → Option (List (Node × Node))
  | .mapping _ entries => (flattenEntries entries).map fun (merged, own) => merged ++ own
  | _ => none

/-- A problem with the round in which it is met. -/
abbrev Timed (α : Type) := Except (Nat × Problem) α

/-- Both of two results, or the problem that is met first. -/
def Timed.both {α β : Type} (a : Timed α) (b : Timed β) : Timed (α × β) :=
  match a, b with
  | .ok x, .ok y => .ok (x, y)
  | .ok _, .error e => .error e
  | .error e, .ok _ => .error e
  | .error e, .error f => .error (if f.1 < e.1 then f else e)

def atRound {α : Type} (round : Nat) : Except Problem α → Timed α :=
  Except.mapError fun problem => (round, problem)

/-- Results of a list of which the problem that is met first counts. -/
def Timed.all {α : Type} : List (Timed α) → Timed (List α)
  | [] => .ok []
  | a :: rest => (Timed.both a (Timed.all rest)).map fun (x, xs) => x :: xs

/-- The value of a node of a scalar tag, by the value of texts. A timestamp must be written at the
node itself. -/
def scalarAt (node : Node) (valueOf : List Char → Except Problem Value) : Except Problem Value :=
  match node.text?, node with
  | none, _ => .error .malformed
  | some _, .mapping tag _ => if tag = Tag.timestamp then .error .timestampMapping else scalarText
  | some _, _ => scalarText
where
  scalarText : Except Problem Value := (node.text?.elim (.error .malformed) valueOf)

/-- The single entry of a node that is an item of an ordered mapping. -/
def Node.single? : Node → Option (Node × Node)
  | .mapping _ [entry] => some entry
  | _ => none

/-- Whether nodes of the tag have parts. -/
def Tag.isCollection (tag : Tag) : Bool :=
  [Tag.sequence, Tag.mapping, Tag.set, Tag.orderedMap, Tag.pairs].contains tag

/-- The value of a node that is met in a round, for nodes of a bounded height. -/
def valueAt : Nat → Nat → Node → Timed Value
  | 0, round, _ => .error (round, .malformed)
  | height + 1, round, node =>
    let tag := node.tag
    let later := round + 1
    let valueOf := valueAt height later
    let failed {α : Type} : Timed α := .error (later, .malformed)
    let entries : Timed Entries :=
      match node.entries? with
      | none => failed
      | some entries => Timed.all (entries.map fun (k, v) =>
        let key := if k.tag.isCollection then failed else valueOf k
        Timed.both key (valueOf v))
    match scalarValue? tag with
    | some read => atRound round (scalarAt node read)
    | none =>
      if tag = Tag.sequence then
        match node with
        | .sequence _ items => (Timed.all (items.map valueOf)).map .list
        | _ => failed
      else if tag = Tag.orderedMap ∨ tag = Tag.pairs then
        match node with
        | .sequence _ items =>
          (Timed.all (items.map fun item =>
            match item.single? with
            | some (k, v) => (Timed.both (valueOf k) (valueOf v)).map fun (k, v) =>
              Value.sequence .tuple [k, v]
            | none => failed)).map .list
        | _ => failed
      else if tag = Tag.mapping then entries.map fun es => .dict (Entries.ofList es)
      else if tag = Tag.set then
        entries.map fun es => .set false (Entries.keys (Entries.ofList es))
      else .error (round, .malformed)

mutual

/-- The levels of a node. -/
def Node.height : Node → Nat
  | .scalar .. => 1
  | .sequence _ items => maxHeight items + 1
  | .mapping _ entries => maxEntryHeight entries + 1

def maxHeight : List Node → Nat
  | [] => 0
  | node :: rest => max node.height (maxHeight rest)

def maxEntryHeight : List (Node × Node) → Nat
  | [] => 0
  | (k, v) :: rest => max (max k.height v.height) (maxEntryHeight rest)

end

/-- The value that a text describes; a text without a document describes nothing. -/
def read (text : List Char) : Except Problem Value := do
  match ← Node.ofText? text with
  | none => pure .null
  | some node =>
    match valueAt (node.height + 1) 0 node with
    | .ok v => pure v
    | .error (_, problem) => throw problem

end DataShape.Yaml
