import DataShape.Fault

/-!
# Writing JSON

A value as JSON text over several lines, two blanks for each level, with every character outside the
visible Latin range written by number. A pattern is written as its source, and a value that JSON has
no form for as its plain text.
-/

namespace DataShape.Json

open Text

/-- A character by its number, as one code or as a pair of halves. -/
def coded (n : Nat) : List Char :=
  if n < 0x10000 then '\\' :: 'u' :: hex 4 n
  else
    let m := n - 0x10000
    '\\' :: 'u' :: hex 4 (0xd800 + m / 0x400) ++ '\\' :: 'u' :: hex 4 (0xdc00 + m % 0x400)

def escaped (c : Char) : List Char :=
  if c = '"' ∨ c = '\\' then ['\\', c]
  else if c = '\n' then ['\\', 'n']
  else if c = '\r' then ['\\', 'r']
  else if c = '\t' then ['\\', 't']
  else if c = '\x0c' then ['\\', 'f']
  else if c = '\x08' then ['\\', 'b']
  else if ' ' ≤ c ∧ c ≤ '~' then [c]
  else coded c.toNat

def quoted (s : String) : String := String.ofList ('"' :: s.toList.flatMap escaped ++ ['"'])

/-- The text of a number, with words for what is none. -/
def number : Floating → String
  | .nan => "NaN"
  | .infinite negative => if negative then "-Infinity" else "Infinity"
  | x => x.display

/-- The start of a line at a level. -/
def newline (level : Nat) : String := String.ofList ('\n' :: List.replicate (2 * level) ' ')

/-- Parts between brackets, a line each. -/
def block (opening closing : String) (level : Nat) (parts : List String) : String :=
  if parts.isEmpty then opening ++ closing
  else
    opening ++ newline (level + 1) ++ ("," ++ newline (level + 1)).intercalate parts
      ++ newline level ++ closing

/-- The text of an integer, unless it is too long. -/
def integer (n : Int) : Except Fault String :=
  if isTooLong n then .error .integerTooLong else .ok (toString n)

/-- The name of a member: a text, or a number, a truth value or nothing by its JSON text. -/
def name : Value → Except Fault String
  | .text s | .scalar (.text s) => .ok s
  | .float x | .scalar (.float .float64 x) => .ok (number x)
  | .bool b => .ok (if b then "true" else "false")
  | .null => .ok "null"
  | .int n => integer n
  | v => .error (.badName v)

/-- What stands for a value that JSON has no form for. -/
def substitute : Value → Except Fault Value
  | .pattern p => match p.source with
    | .text s => .ok (.text s)
    | .bytes b => .ok (.bytes b)
  | v => do
    v.checkWritable
    pure (.text v.display)

/-- A value without parts, or one that JSON has no form for. -/
def leaf : Value → Except Fault String
  | .null => .ok "null"
  | .bool b => .ok (if b then "true" else "false")
  | .int n => integer n
  | .float x | .scalar (.float .float64 x) => .ok (number x)
  | v => return quoted (← substitute v).display

mutual

/-- A value whose first line starts at a level. -/
def printAt (level : Nat) : Value → Except Fault String
  | .sequence _ items => return block "[" "]" level (← printItems (level + 1) items)
  | .mapping .plain entries | .mapping .ordered entries =>
    return block "\x7b" "\x7d" level (← printMembers (level + 1) entries)
  | v => leaf v

def printItems (level : Nat) : List Value → Except Fault (List String)
  | [] => return []
  | v :: rest => do
    let first ← printAt level v
    return first :: (← printItems level rest)

def printMembers (level : Nat) : List (Value × Value) → Except Fault (List String)
  | [] => return []
  | (k, v) :: rest => do
    let key ← name k
    let body ← printAt level v
    return (quoted key ++ ": " ++ body) :: (← printMembers level rest)

end

/-- A value as JSON text. -/
def print (v : Value) : Except Fault String := printAt 0 v

end DataShape.Json
