import DataShape.Number.Column
import DataShape.Text.Quoted
import DataShape.Value.Basic

/-!
# Packed arrays

The elements of an array of any number of dimensions, and its text: rows in brackets, the elements
of one width, rows of rows under each other, and long rows broken into lines.
-/

namespace DataShape

namespace Value

def isArray : Value → Bool
  | .array .. | .point .. => true
  | _ => false

mutual

/-- The elements of a packed array of any number of dimensions. -/
def elements : Value → List Value
  | .array _ rows => allElements rows
  | .point _ v => [v]
  | v => [v]

def allElements : List Value → List Value
  | [] => []
  | v :: rest => v.elements ++ allElements rest

end

/-- The length of a packed array in each dimension, judged by the first of its rows. -/
def shape : Value → List Nat
  | .array _ [] => [0]
  | .array _ (row :: rest) => (rest.length + 1) :: row.shape
  | _ => []

end Value

/-- The texts of the elements of a packed array, nested as its rows are. -/
inductive Grid where
  | cell (text : String)
  | rows (parts : List Grid)

namespace Grid

/-- The longest line of an array's text. -/
def lineWidth : Nat := 75

def isCell : Grid → Bool
  | .cell _ => true
  | .rows _ => false

/-- The number of dimensions. -/
def depth : Grid → Nat
  | .cell _ => 0
  | .rows [] => 1
  | .rows (part :: _) => part.depth + 1

def trimEnd (cs : List Char) : List Char := (cs.reverse.dropWhile (· = ' ')).reverse

/-- Writes words behind an open line, and begins an indented line where a word would not fit. -/
def wrap (width : Nat) (indent separator line : List Char) : List (List Char) → List Char
  | [] => line
  | word :: rest =>
    let isFull : Bool := width < line.length + word.length && indent.length < line.length
    let closed := if isFull then trimEnd line ++ ['\n'] else []
    let line := (if isFull then indent else line) ++ word ++ (if rest.isEmpty then [] else separator)
    closed ++ wrap width indent separator line rest

mutual

/-- The text of a grid whose lines after the first stand behind an indent. -/
def layout (separator : List Char) (width : Nat) (indent : List Char) : Grid → List Char
  | .cell text => text.toList
  | .rows parts =>
    let texts := layouts separator (width - 1) (indent ++ [' ']) parts
    let body :=
      if parts.all isCell then
        (wrap (width - 1) indent separator indent texts).drop indent.length
      else
        let lines := List.replicate ((Grid.rows parts).depth - 1) '\n'
        (trimEnd separator ++ lines ++ indent).intercalate texts
    '[' :: body ++ [']']

def layouts (separator : List Char) (width : Nat) (indent : List Char) :
    List Grid → List (List Char)
  | [] => []
  | part :: rest => part.layout separator width indent :: layouts separator width indent rest

end

/-- The plain text of an array. -/
def text (grid : Grid) : String := String.ofList (grid.layout [' '] lineWidth [' '])

end Grid

namespace Packing

/-- How a call that makes an array names the class of its elements, unless they show it. -/
def argument? (packing : Packing) (elements : List Value) : Option String :=
  let named (name : String) := some ("dtype=" ++ name)
  match packing with
  | .int width => if width = .int64 && !elements.isEmpty then none else named width.name
  | .float width => if width = .float64 && !elements.isEmpty then none else named width.name
  | .bool => if elements.isEmpty then named "bool" else none
  | .text =>
    let longest := (elements.map fun v => (v.text?.getD "").length).foldl max 1
    named ("'<U" ++ toString longest ++ "'")
  | .moment unit => named ("'datetime64[" ++ unit.symbol ++ "]'")
  | .span unit => named ("'timedelta64[" ++ unit.symbol ++ "]'")
  | .any => named "object"

/-- Blanks before a text up to a width. -/
def alignRight (width : Nat) (text : String) : String :=
  String.ofList (List.replicate (width - text.length) ' ') ++ text

def number? : Value → Option Floating
  | .scalar (.float _ x) => some x
  | _ => none

def integer? : Value → Option Int
  | .scalar (.int _ n) => some n
  | _ => none

/-- A moment or a span as an element. -/
def timeText : Scalar → String
  | .moment unit count => "'" ++ unit.momentText count ++ "'"
  | .span _ count => toString count
  | _ => "'NaT'"

def time? : Value → Option Scalar
  | .scalar s@(.moment ..) | .scalar s@(.span ..) | .scalar s@(.never ..) => some s
  | _ => none

/-- The texts of scalars that are the elements of one array. -/
def scalarText (packing : Packing) (isPoint : Bool) (elements : List Value) : Scalar → String :=
  let widest (widths : List Nat) := widths.foldl max 0
  let integerWidth := widest ((elements.filterMap integer?).map fun n => (toString n).length)
  let timeWidth := widest ((elements.filterMap time?).map fun s => (timeText s).length)
  let column : Floating.Column := .ofNumbers
    (match packing with
      | .float width => width.format
      | _ => .double)
    (elements.filterMap number?)
  fun
  | .int _ n => alignRight integerWidth (toString n)
  | .float _ x => column.text x
  | .bool b => alignRight (if isPoint then 0 else 5) (if b then "True" else "False")
  | .text s => Text.quoted s
  | s => alignRight timeWidth (timeText s)

/-- An array as a call, given its grid: elements that do not show their class, and a shape that
rows do not show, are named beside them. -/
def call (packing : Packing) (v : Value) (grid : Grid) : String :=
  let front := "array("
  let indent := List.replicate (front.length + 1) ' '
  let elements := v.elements
  let isPlain := !elements.isEmpty || v.shape == [0]
  let body :=
    if isPlain then String.ofList (grid.layout [',', ' '] (Grid.lineWidth - 1) indent)
    else
      let sizes := v.shape.map toString
      "[], shape=(" ++ ", ".intercalate sizes ++ (if sizes.length = 1 then "," else "") ++ ")"
  let text := front ++ body
  match packing.argument? elements with
  | none => text ++ ")"
  | some argument =>
    let lastLine := (text.toList.reverse.takeWhile (· ≠ '\n')).length
    let isLong : Bool := Grid.lineWidth < lastLine + argument.length + 2
    text ++ "," ++ (if isLong then "\n      " else " ") ++ argument ++ ")"

end Packing

end DataShape
