import DataShape.Text.Category
import DataShape.Text.Digits

/-!
# Quoted text

A text in quotes, as messages show it. The quote is a single one unless the text holds single
quotes and no double ones; characters without a glyph are written by number.
-/

namespace DataShape.Text

/-- The quote that needs the fewest escapes, the single quote where both do. -/
def quoteFor (cs : List Char) : Char :=
  if cs.contains '\'' && !cs.contains '"' then '"' else '\''

/-- A character by its number: two, four or eight hexadecimal digits after `x`, `u` or `U`. -/
def numbered (n : Nat) : List Char :=
  if n < 0x100 then '\\' :: 'x' :: hex 2 n
  else if n < 0x10000 then '\\' :: 'u' :: hex 4 n
  else '\\' :: 'U' :: hex 8 n

/-- How one character stands between the given quotes. -/
def escaped (quote c : Char) : List Char :=
  if c = quote ∨ c = '\\' then ['\\', c]
  else if c = '\n' then ['\\', 'n']
  else if c = '\r' then ['\\', 'r']
  else if c = '\t' then ['\\', 't']
  else if isPrintable c.toNat then [c]
  else numbered c.toNat

def quotedChars (cs : List Char) : List Char :=
  let quote := quoteFor cs
  quote :: cs.flatMap (escaped quote) ++ [quote]

def quoted (s : String) : String := String.ofList (quotedChars s.toList)

/-- Bytes in quotes after a `b`; a byte outside the visible Latin range is written by number. -/
def quotedBytes (bytes : List UInt8) : String :=
  let cs := bytes.map fun b => Char.ofNat b.toNat
  let quote := quoteFor cs
  let one (c : Char) := if c.toNat < 0x7f then escaped quote c else numbered c.toNat
  String.ofList ('b' :: quote :: cs.flatMap one ++ [quote])

end DataShape.Text
