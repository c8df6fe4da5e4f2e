import DataShape.Text.Digits
import DataShape.Yaml.Cursor
import DataShape.Yaml.Problem

/-!
# Scalars in YAML text

The text that a scalar denotes in each of its styles: plain, between single or double quotes, and as
an indented block. A single line end inside a plain or quoted scalar becomes a blank, and of several
the first is dropped.
-/

namespace DataShape.Yaml

open Text

/-- What a line end and the line ends after it become inside a scalar. -/
def folded (lineEnd : Char) (more : List Char) : List Char :=
  if lineEnd ≠ '\n' then lineEnd :: more
  else if more.isEmpty then [' ']
  else more

/-! ## Plain scalars -/

/-- Whether a plain scalar may start here. -/
def startsPlain (inFlow : Bool) (c : Cursor) : Bool :=
  match c.next? with
  | none => false
  | some d =>
    if d = '-' then !endsWord c.second?
    else if d = '?' ∨ d = ':' then !inFlow && !endsWord c.second?
    else !("\t ,[]\x7b\x7d#&*!|>'\"%@\x60".toList.contains d) && !isBreak d

/-- The length of the word of a plain scalar: up to a blank, a colon that ends a word, or in a flow
collection one of its marks. -/
def plainWord (inFlow : Bool) : List Char → Nat
  | [] => 0
  | d :: rest =>
    let next? := rest.head?
    let endsKey := endsWord next? || (inFlow && next?.any fun c => ",[]\x7b\x7d".toList.contains c)
    if endsWord (some d) || (d = ':' && endsKey)
        || (inFlow && ",?[]\x7b\x7d".toList.contains d) then 0
    else plainWord inFlow rest + 1

/-- The line ends after the first one inside a plain scalar, with the blanks around them. Nothing is
given where a mark between documents follows. -/
def plainBreaks : Nat → Cursor → Option (List Char) × Cursor
  | 0, c => (some [], c)
  | bound + 1, c =>
    if c.isAtDocumentMark && c.column = 0 then (none, c)
    else
      let c := c.skipBlanks
      match c.lineEnd? with
      | none => (some [], c)
      | some (d, c) =>
        let (more, c) := plainBreaks bound c
        (more.map (d :: ·), c)

/-- What stands between two words of a plain scalar, the place after it, and whether a line ended.
-/
def plainGap (c : Cursor) : List Char × Cursor × Bool :=
  let (blanks, c) := c.span (· = ' ')
  match c.lineEnd? with
  | none => (blanks, c, false)
  | some (d, c) =>
    match plainBreaks (c.rest.length + 1) c with
    | (none, c) => ([], c, true)
    | (some more, c) => (folded d more, c, true)

/-- The words of a plain scalar from here on, after the gap before them; with the place after the
scalar and whether a line ended there. -/
def plainWords (inFlow : Bool) (indent : Nat) : Nat → List Char → Bool → Cursor →
    List Char × Cursor × Bool
  | 0, _, crossed, c => ([], c, crossed)
  | bound + 1, gap, crossed, c =>
    let length := if c.next? = some '#' then 0 else plainWord inFlow c.rest
    if length = 0 then ([], c, crossed)
    else
      let word := c.rest.take length
      let (next, c, crossed) := plainGap (c.skip length)
      if next.isEmpty || c.next? = some '#' || (!inFlow && c.column < indent) then
        (gap ++ word, c, crossed)
      else
        let (more, c, crossed) := plainWords inFlow indent bound next crossed c
        (gap ++ word ++ more, c, crossed)

/-- A plain scalar that belongs to a block of an indentation. -/
def readPlain (inFlow : Bool) (indent : Nat) (c : Cursor) : List Char × Cursor × Bool :=
  plainWords inFlow indent (c.rest.length + 1) [] false c

/-! ## Quoted scalars -/

/-- The character of a one-letter escape. -/
def escape? : Char → Option Char
  | '0' => some '\x00'
  | 'a' => some '\x07'
  | 'b' => some '\x08'
  | 't' => some '\t'
  | '\t' => some '\t'
  | 'n' => some '\n'
  | 'v' => some '\x0b'
  | 'f' => some '\x0c'
  | 'r' => some '\r'
  | 'e' => some '\x1b'
  | ' ' => some ' '
  | '"' => some '"'
  | '\\' => some '\\'
  | '/' => some '/'
  | 'N' => some '\x85'
  | '_' => some '\xa0'
  | 'L' => some '\u2028'
  | 'P' => some '\u2029'
  | _ => none

/-- How many digits the number of an escape has. -/
def escapeDigits? : Char → Option Nat
  | 'x' => some 2
  | 'u' => some 4
  | 'U' => some 8
  | _ => none

/-- The character of a number. -/
def characterOf (n : Nat) : Except Problem Char :=
  if 0x80000000 ≤ n then .error (.notCharacter true)
  else if 0x110000 ≤ n then .error (.notCharacter false)
  else if 0xd800 ≤ n ∧ n < 0xe000 then .error .loneHalf
  else .ok (Char.ofNat n)

/-- The line ends inside a quoted scalar after the first one. No mark between documents may follow a
line end. -/
def quotedBreaks : Nat → Cursor → Except Problem (List Char × Cursor)
  | 0, _ => .error .malformed
  | bound + 1, c =>
    if c.isAtDocumentMark then .error .malformed
    else
      let (_, c) := c.span fun d => d = ' ' || d = '\t'
      match c.lineEnd? with
      | none => .ok ([], c)
      | some (d, c) => (quotedBreaks bound c).map fun r => (d :: r.1, r.2)

/-- An escape after its backslash. -/
def readEscape (c : Cursor) : Except Problem (List Char × Cursor) :=
  match c.next? with
  | none => .error .malformed
  | some d =>
    match escape? d, escapeDigits? d with
    | some d, _ => .ok ([d], c.step)
    | none, some count =>
      let digits := (c.rest.drop 1).take count
      if digits.length = count ∧ digits.all isHexDigit then
        (characterOf (readBase 16 digits)).map fun d => ([d], c.skip (count + 1))
      else .error .malformed
    | none, none =>
      match c.lineEnd? with
      | some (_, c) => quotedBreaks (c.rest.length + 1) c
      | none => .error .malformed

/-- A part of a quoted scalar: blanks and line ends, an escape or a character. -/
def quotedPart (isDouble : Bool) (d : Char) (c : Cursor) : Except Problem (List Char × Cursor) :=
  if isDouble && d = '\\' then readEscape c.step
  else if endsWord (some d) then
    let (blanks, c) := c.span fun d => d = ' ' || d = '\t'
    match c.lineEnd? with
    | none => .ok (blanks, c)
    | some (d, c) => (quotedBreaks (c.rest.length + 1) c).map fun r => (folded d r.1, r.2)
  else .ok ([d], c.step)

/-- A quoted scalar after its opening quote. -/
def quotedRest (isDouble : Bool) : Nat → Cursor → Except Problem (List Char × Cursor)
  | 0, _ => .error .malformed
  | bound + 1, c =>
    match c.next? with
    | none => .error .malformed
    | some d =>
      if d = (if isDouble then '"' else '\'') then
        if !isDouble && c.second? = some '\'' then
          (quotedRest isDouble bound (c.skip 2)).map fun r => ('\'' :: r.1, r.2)
        else .ok ([], c.step)
      else do
        let (part, c) ← quotedPart isDouble d c
        let (more, c) ← quotedRest isDouble bound c
        pure (part ++ more, c)

def readQuoted (isDouble : Bool) (c : Cursor) : Except Problem (List Char × Cursor) :=
  quotedRest isDouble (c.rest.length + 1) c.step

/-! ## Block scalars -/

/-- What becomes of the line ends at the end of a block. -/
inductive Chomping where
  | clip
  | strip
  | keep
deriving DecidableEq

def chomping? : Option Char → Option Chomping
  | some '+' => some .keep
  | some '-' => some .strip
  | _ => none

/-- The indentation that a header gives; zero is none. -/
def increment? (next? : Option Char) : Option Nat := next?.bind latinDigit?

/-- The header of a block: chomping and indentation in either order. -/
def readHeader (c : Cursor) : Except Problem (Chomping × Option Nat × Cursor) := do
  let (chomping, increment, c) := match chomping? c.next?, increment? c.next? with
    | some chomping, _ =>
      match increment? c.step.next? with
      | some n => (chomping, some n, c.skip 2)
      | none => (chomping, none, c.step)
    | none, some n =>
      match chomping? c.step.next? with
      | some chomping => (chomping, some n, c.skip 2)
      | none => (.clip, some n, c.step)
    | none, none => (.clip, none, c)
  if increment = some 0 ∨ !endsPart c.next? then throw .malformed
  let c := c.skipBlanks.skipComment
  if !endsLine c.next? then throw .malformed
  pure (chomping, increment, (c.lineEnd?.map Prod.snd).getD c)

/-- The line ends before the first line of a block, and the widest indentation met on the way. -/
def detectIndent : Nat → Nat → Cursor → List Char × Nat × Cursor
  | 0, widest, c => ([], widest, c)
  | bound + 1, widest, c =>
    match c.lineEnd? with
    | some (d, c) =>
      let (more, widest, c) := detectIndent bound widest c
      (d :: more, widest, c)
    | none =>
      if c.next? = some ' ' then detectIndent bound (max widest c.step.column) c.step
      else ([], widest, c)

/-- The empty lines in a block before its next line. -/
def blockBreaks (indent : Nat) : Nat → Cursor → List Char × Cursor
  | 0, c => ([], c)
  | bound + 1, c =>
    let c := c.skipBlanksTo indent
    match c.lineEnd? with
    | none => ([], c)
    | some (d, c) =>
      let (more, c) := blockBreaks indent bound c
      (d :: more, c)

/-- Whether a line of a block starts here. -/
def isAtBlockLine (indent : Nat) (c : Cursor) : Bool := c.column = indent && !c.isAtEnd

/-- Whether the line here has content right at the indentation. -/
def isAtContent (c : Cursor) : Bool := c.next?.all fun d => d ≠ ' ' && d ≠ '\t'

/-- The lines of a block, the end of the last one, and the empty lines after it. -/
def blockLines (isFolded : Bool) (indent : Nat) : Nat → List Char → Cursor →
    List Char × List Char × List Char × Cursor
  | 0, breaks, c => ([], [], breaks, c)
  | bound + 1, breaks, c =>
    if isAtBlockLine indent c then
      let (line, after) := c.span fun d => !isBreak d
      let (lineEnd, after) := match after.lineEnd? with
        | some (d, after) => ([d], after)
        | none => ([], after)
      let (more, after) := blockBreaks indent (after.rest.length + 1) after
      if isAtBlockLine indent after then
        let joint :=
          if isFolded && lineEnd = ['\n'] && isAtContent c && isAtContent after then
            if more.isEmpty then [' '] else []
          else lineEnd
        let (text, last, left, after) := blockLines isFolded indent bound more after
        (breaks ++ line ++ joint ++ text, last, left, after)
      else (breaks ++ line, lineEnd, more, after)
    else ([], [], breaks, c)

/-- A block scalar at its mark, inside a block of an indentation. -/
def readBlock (isFolded : Bool) (indent : Nat) (c : Cursor) :
    Except Problem (List Char × Cursor) := do
  let (chomping, increment?, c) ← readHeader c.step
  let least := max indent 1
  let bound := c.rest.length + 1
  let (indent, breaks, c) := match increment? with
    | none =>
      let (breaks, widest, c) := detectIndent bound 0 c
      (max least widest, breaks, c)
    | some n =>
      let indent := least + n - 1
      let (breaks, c) := blockBreaks indent bound c
      (indent, breaks, c)
  let (text, last, left, c) := blockLines isFolded indent bound breaks c
  let tail := match chomping with
    | .strip => []
    | .clip => last
    | .keep => last ++ left
  pure (text ++ tail, c)

end DataShape.Yaml
