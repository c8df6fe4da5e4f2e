/-!
# Digits

Numerals in base ten and sixteen, with and without a fixed width, and the reading of digits.
-/

namespace DataShape.Text

/-- The numeral of `n` in base ten. -/
def decimal (n : Nat) : List Char := Nat.toDigits 10 n

def digitChar (n : Nat) : Char := Nat.digitChar n

/-- The last `width` digits of `n` in the given base, with zeros in front. -/
def padded (base : Nat) : (width : Nat) → (n : Nat) → List Char
  | 0, _ => []
  | width + 1, n => padded base width (n / base) ++ [digitChar (n % base)]

/-- `n` in base ten, with zeros in front up to `width` digits and never cut. -/
def atLeast (width n : Nat) : List Char :=
  let digits := decimal n
  List.replicate (width - digits.length) '0' ++ digits

def hex (width n : Nat) : List Char := padded 16 width n

/-- The value of a digit of the Latin numerals. -/
def latinDigit? (c : Char) : Option Nat :=
  if '0' ≤ c ∧ c ≤ '9' then some (c.toNat - 48) else none

def isLatinDigit (c : Char) : Bool := '0' ≤ c && c ≤ '9'

def hexDigit? (c : Char) : Option Nat :=
  if '0' ≤ c ∧ c ≤ '9' then some (c.toNat - 48)
  else if 'a' ≤ c ∧ c ≤ 'f' then some (c.toNat - 87)
  else if 'A' ≤ c ∧ c ≤ 'F' then some (c.toNat - 55)
  else none

def isHexDigit (c : Char) : Bool := (hexDigit? c).isSome

def isOctalDigit (c : Char) : Bool := '0' ≤ c && c ≤ '7'

/-- The number that a list of digit values denotes in the given base. -/
def valueOf (base : Nat) (digits : List Nat) : Nat :=
  digits.foldl (fun value d => value * base + d) 0

/-- The number of digits beyond which a decimal integer is neither read nor written. -/
def digitLimit : Nat := 4300

/-- The least number that has more digits than are written. The exponent stands in two factors, so
that the power can be worked out. -/
@[irreducible] def firstTooLong : Nat :=
  -- the instance is written out, as `^` means another one where monoids are in scope
  @HPow.hPow Nat Nat Nat (@instHPow Nat Nat instPowNat)
    (@HPow.hPow Nat Nat Nat (@instHPow Nat Nat instPowNat) 10 100) 43

/-- Whether an integer has more digits than are written. -/
def isTooLong (n : Int) : Bool := firstTooLong ≤ n.natAbs

/-- The refusal to read a decimal integer of that many digits. -/
def tooManyDigits (digits : Nat) : String :=
  "Exceeds the limit (4300 digits) for integer string conversion: value has " ++ toString digits
    ++ " digits; use sys.set_int_max_str_digits() to increase the limit"

/-- The refusal to write an integer in decimal. -/
def integerTooLong : String :=
  "Exceeds the limit (4300 digits) for integer string conversion; "
    ++ "use sys.set_int_max_str_digits() to increase the limit"

/-- A non-empty text of Latin digits, read in base ten. -/
def readDecimal? (cs : List Char) : Option Nat :=
  if cs.isEmpty then none else (cs.mapM latinDigit?).map (valueOf 10)

/-- The characters as digits of the given base; those that are no digit count as zero. -/
def readBase (base : Nat) (cs : List Char) : Nat :=
  valueOf base (cs.map fun c => (hexDigit? c).getD 0)

end DataShape.Text
