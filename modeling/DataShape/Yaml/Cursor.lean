/-!
# Places in YAML text

A place is what follows in a text, with the characters, lines and columns that lie before it. Lines
end at a line feed, a return, both together, or one of the three other line ends of Unicode.
-/

namespace DataShape.Yaml

/-- Whether a character may occur in YAML text at all. -/
def isPermitted (c : Char) : Bool :=
  let n := c.toNat
  n = 9 || n = 10 || n = 13 || (0x20 ≤ n && n ≤ 0x7e) || n = 0x85 || (0xa0 ≤ n && n ≤ 0xfffd)
    || 0x10000 ≤ n

def isBreak (c : Char) : Bool :=
  c = '\n' || c = '\r' || c = '\x85' || c = '\u2028' || c = '\u2029'

/-- Whether a line ends before what follows. -/
def endsLine (next? : Option Char) : Bool := next?.all isBreak

/-- Whether a part of a line ends before what follows: at a blank or with the line. -/
def endsPart (next? : Option Char) : Bool := next?.all fun c => c = ' ' || isBreak c

/-- Whether a word ends before what follows: at a blank, at a tabulator or with the line. -/
def endsWord (next? : Option Char) : Bool := next?.all fun c => c = ' ' || c = '\t' || isBreak c

structure Cursor where
  rest : List Char
  index : Nat := 0
  line : Nat := 0
  column : Nat := 0

namespace Cursor

def next? (c : Cursor) : Option Char := c.rest.head?

/-- The character after the next one. -/
def second? (c : Cursor) : Option Char := c.rest[1]?

def isAtEnd (c : Cursor) : Bool := c.rest.isEmpty

def startsWith (word : String) (c : Cursor) : Bool := word.toList.isPrefixOf c.rest

/-- The place one character on. A byte order mark has no width, and a return before a line feed
leaves the end of the line to the feed. -/
def step (c : Cursor) : Cursor :=
  match c.rest with
  | [] => c
  | d :: rest =>
    if isBreak d && !(d = '\r' && rest.head? = some '\n') then ⟨rest, c.index + 1, c.line + 1, 0⟩
    else ⟨rest, c.index + 1, c.line, if d = '\ufeff' then c.column else c.column + 1⟩

def skip : Nat → Cursor → Cursor
  | 0, c => c
  | n + 1, c => c.step.skip n

/-- The characters up to the first that fails a test, and the place before that one. -/
def span (p : Char → Bool) (c : Cursor) : List Char × Cursor :=
  let front := c.rest.takeWhile p
  (front, c.skip front.length)

def skipBlanks (c : Cursor) : Cursor := (c.span (· = ' ')).2

/-- The place after the blanks that lie before a column. -/
def skipBlanksTo (column : Nat) (c : Cursor) : Cursor :=
  c.skip (min (column - c.column) (c.rest.takeWhile (· = ' ')).length)

/-- A line end as the character that it stands for, and the place after it. -/
def lineEnd? (c : Cursor) : Option (Char × Cursor) :=
  match c.rest with
  | '\r' :: '\n' :: _ => some ('\n', c.skip 2)
  | d :: _ =>
    if d = '\u2028' ∨ d = '\u2029' then some (d, c.step)
    else if isBreak d then some ('\n', c.step)
    else none
  | [] => none

/-- The place after a comment, if there is one here. -/
def skipComment (c : Cursor) : Cursor :=
  if c.next? = some '#' then (c.span fun d => !isBreak d).2 else c

/-- Whether one of the two marks that part documents stands here. -/
def isAtMark (mark : String) (c : Cursor) : Bool := c.startsWith mark && endsWord (c.rest[3]?)

def isAtDocumentMark (c : Cursor) : Bool := c.isAtMark "---" || c.isAtMark "..."

end Cursor

end DataShape.Yaml
