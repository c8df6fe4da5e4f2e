/-!
# Terminal controls

The sequences that steer a terminal: an escape, an opening bracket, any number of parameters and a
letter.
-/

namespace DataShape.Text

/-- What has been met of a sequence, with the characters that stay if it is none. -/
inductive ControlState where
  | outside
  | escape
  | parameters (reversed : List Char)

def isParameter (c : Char) : Bool := c = ';' || c = '?' || c.isDigit

/-- The characters that are left of a text, given what has been met of a sequence. -/
def dropControls : ControlState → List Char → List Char
  | .outside, [] => []
  | .escape, [] => ['\x1b']
  | .parameters reversed, [] => reversed.reverse
  | .outside, c :: rest =>
    if c = '\x1b' then dropControls .escape rest else c :: dropControls .outside rest
  | .escape, c :: rest =>
    if c = '[' then dropControls (.parameters ['[', '\x1b']) rest
    else if c = '\x1b' then '\x1b' :: dropControls .escape rest
    else '\x1b' :: c :: dropControls .outside rest
  | .parameters reversed, c :: rest =>
    if isParameter c then dropControls (.parameters (c :: reversed)) rest
    else if c.isAlpha then dropControls .outside rest
    else if c = '\x1b' then reversed.reverse ++ dropControls .escape rest
    else reversed.reverse ++ c :: dropControls .outside rest

/-- A text without the sequences that steer a terminal. -/
def withoutControls (cs : List Char) : List Char := dropControls .outside cs

example : withoutControls "a\x1b[1;31mb\x1b[?".toList = "ab\x1b[?".toList := by decide

end DataShape.Text
