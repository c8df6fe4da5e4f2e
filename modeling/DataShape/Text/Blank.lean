/-!
# Blank characters

The white space of every script: what is trimmed from the ends of a text before it is read as a
number or a date, and what the class of spaces in a pattern matches.
-/

namespace DataShape.Text

def isBlank (c : Char) : Bool :=
  let n := c.toNat
  (9 ≤ n && n ≤ 13) || (28 ≤ n && n ≤ 32) || n == 0x85 || n == 0xa0 || n == 0x1680
    || (0x2000 ≤ n && n ≤ 0x200a) || n == 0x2028 || n == 0x2029 || n == 0x202f || n == 0x205f
    || n == 0x3000

/-- The blanks that may surround a numeral: all but the four information separators. -/
def isSpace (c : Char) : Bool := isBlank c && !(28 ≤ c.toNat && c.toNat ≤ 31)

/-- A text without the characters of a class at its two ends. -/
def trimWhere (isMargin : Char → Bool) (cs : List Char) : List Char :=
  ((cs.dropWhile isMargin).reverse.dropWhile isMargin).reverse

/-- A text without the blanks at its two ends. -/
def trim : List Char → List Char := trimWhere isBlank

/-- A text without the spaces that may surround a numeral. -/
def trimSpace : List Char → List Char := trimWhere isSpace

end DataShape.Text
