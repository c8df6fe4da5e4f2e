import DataShape.Text.Blank
import DataShape.Text.Case
import DataShape.Text.Category
import DataShape.Text.Digits
import DataShape.Number.Shortest

/-!
# Numerals

Reading and writing numbers as decimal text. A floating-point datum is written with the fewest
digits that read back, in positional notation from `10 ^ -4` up to a limit that depends on the
format, `10 ^ 16` for double precision.
-/

namespace DataShape

open Text

/-- A decimal number as written: `± digits · 10 ^ exponent`. -/
structure Numeral where
  negative : Bool
  digits : Nat
  exponent : Int
deriving DecidableEq

namespace Numeral

/-- Splits off a sign, which is absent for a positive number. -/
def sign : List Char → Bool × List Char
  | '-' :: rest => (true, rest)
  | '+' :: rest => (false, rest)
  | cs => (false, cs)

/-- The digits at the front of a text and what follows them. -/
def spanDigits (cs : List Char) : List Char × List Char := cs.span isLatinDigit

/-- The exponent part of a numeral: nothing, or a letter `e` with a whole number. -/
def readExponent? : List Char → Option Int
  | [] => some 0
  | e :: rest =>
    if e = 'e' ∨ e = 'E' then
      let (negative, digits) := sign rest
      (readDecimal? digits).map fun n => if negative then -(n : Int) else n
    else none

/-- A whole text as a numeral: digits with at most one point among or beside them, and an optional
exponent. -/
def read? (cs : List Char) : Option Numeral :=
  let (negative, cs) := sign cs
  let (whole, cs) := spanDigits cs
  let (fraction, cs) := match cs with
    | '.' :: rest => spanDigits rest
    | _ => ([], cs)
  if whole.isEmpty && fraction.isEmpty then none
  else
    (readExponent? cs).map fun exponent =>
      ⟨negative, readBase 10 (whole ++ fraction), exponent - fraction.length⟩

end Numeral

namespace Floating

def ofNumeral (f : Format) (n : Numeral) : Floating :=
  f.ofDecimal n.negative n.digits n.exponent

/-- Removes underscores, each of which must stand between two digits. -/
def dropUnderscores? (cs : List Char) : Option (List Char) :=
  let rec go (previous : Char) : List Char → Option (List Char)
    | [] => if previous = '_' then none else some []
    | c :: rest =>
      if c = '_' then if isLatinDigit previous then go c rest else none
      else if previous = '_' ∧ !isLatinDigit c then none
      else (go c rest).map (c :: ·)
  go ' ' cs

/-- Digits of any script as Latin ones, and every other character as it is. -/
def latinDigits (cs : List Char) : List Char :=
  cs.map fun c =>
    if c.toNat < 128 then c
    else match digitValue? c.toNat with
      | some d => digitChar d
      | none => c

/-- The datum that a word names. -/
def ofWord? (cs : List Char) : Option Floating :=
  let (negative, cs) := Numeral.sign cs
  let word := lowerLatin (String.ofList cs)
  if word = "inf" ∨ word = "infinity" then some (.infinite negative)
  else if word = "nan" then some .nan
  else none

/-- A whole text as a number: a numeral or a word for infinity or nothing, between blanks, with
digits of any script and underscores between digits. -/
def read? (s : String) : Option Floating := do
  let cs ← dropUnderscores? (latinDigits (trimSpace s.toList))
  match Numeral.read? cs with
  | some n => some (ofNumeral .double n)
  | none => ofWord? cs

/-- A whole text as an integer, between blanks, with a sign, digits of any script and underscores
between digits. -/
def readInteger? (cs : List Char) : Option Int := do
  let cs ← dropUnderscores? (latinDigits (Text.trimSpace cs))
  let (negative, digits) := Numeral.sign cs
  let n ← readDecimal? digits
  pure (if negative then -(n : Int) else n)

/-- The letter that may mark a base after a zero. -/
def baseMark? : Nat → Option Char
  | 2 => some 'b'
  | 8 => some 'o'
  | 16 => some 'x'
  | _ => none

/-- A whole text as an integer in a base, between blanks: a sign, a mark of the base, and digits of
any script. The number of digits is given too. -/
def readInBase? (base : Nat) (cs : List Char) : Option (Int × Nat) :=
  let (negative, cs) := Numeral.sign (latinDigits (Text.trimSpace cs))
  let digits := match cs with
    | '0' :: mark :: rest => if baseMark? base = some mark.toLower then rest else cs
    | _ => cs
  let isDigit (c : Char) := (hexDigit? c).any (· < base)
  if digits.isEmpty || !digits.all isDigit then none
  else
    let n : Int := readBase base digits
    some (if negative then -n else n, digits.length)

/-- Digits with a decimal point after `point` places, which may lie outside the digits. -/
def positional (digits : List Char) (point : Int) (pointZero : Bool) : List Char :=
  if point ≤ 0 then
    '0' :: '.' :: List.replicate (-point).toNat '0' ++ digits
  else
    let whole := digits.take point.toNat ++ List.replicate (point.toNat - digits.length) '0'
    let fraction := digits.drop point.toNat
    if fraction.isEmpty then whole ++ (if pointZero then ['.', '0'] else [])
    else whole ++ '.' :: fraction

/-- One digit before the point and a signed exponent of at least two digits. -/
def scientific (digits : List Char) (power : Int) : List Char :=
  let mantissa := match digits with
    | [] => []
    | [d] => [d]
    | d :: rest => d :: '.' :: rest
  let sign := if power < 0 then '-' else '+'
  mantissa ++ 'e' :: sign :: atLeast 2 power.natAbs

/-- The greatest number of digits before the point in positional notation. -/
def Format.wholeDigits (f : Format) : Nat := if f = .double then 16 else f.decimalDigits

/-- The text of a datum of a format; `pointZero` keeps `.0` after a whole number. -/
def render (f : Format) (pointZero : Bool) : Floating → String
  | .nan => "nan"
  | .infinite negative => if negative then "-inf" else "inf"
  | .finite negative 0 _ =>
    String.ofList ((if negative then ['-'] else []) ++ positional ['0'] 1 pointZero)
  | .finite negative mantissa exponent =>
    let (n, e) := f.shortest mantissa exponent
    let digits := decimal n
    let point := e + digits.length
    let body :=
      if -4 < point ∧ point ≤ f.wholeDigits then positional digits point pointZero
      else scientific digits (point - 1)
    String.ofList ((if negative then ['-'] else []) ++ body)

/-- The text of a number of double precision. -/
def display (x : Floating) : String := x.render .double true

end Floating

end DataShape
