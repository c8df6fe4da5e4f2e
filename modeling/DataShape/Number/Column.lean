import DataShape.Number.Numeral

/-!
# Columns of numerals

Floating-point numbers that are written side by side: all in positional notation or all with an
exponent, with at most eight digits after the point, and with blanks around them so that their
points would stand in one column.
-/

namespace DataShape.Floating

open Text

/-- The most digits after the point. -/
def columnPlaces : Nat := 8

/-- The digits and the decimal exponent of a finite non-zero datum with nothing below
`10 ^ place`: the shortest decimal that reads back, or the nearest one that ends there. -/
def Format.decimalFrom (f : Format) (mantissa : Nat) (exponent place : Int) : Nat × Int :=
  let (digits, e) := f.shortest mantissa exponent
  if place ≤ e then (digits, e)
  else
    let num := mantissa * Nat.pow 2 exponent.toNat * Nat.pow 10 (-place).toNat
    let den := Nat.pow 2 (-exponent).toNat * Nat.pow 10 place.toNat
    trimZeros (nearest num den) place

/-- A numeral in parts: what stands before the point, after it, and the power of ten beside it. -/
structure NumeralParts where
  whole : List Char
  fraction : List Char
  power : Int

namespace NumeralParts

/-- A finite number without a power of ten. -/
def positional (f : Format) (x : Floating) : NumeralParts :=
  let sign := if x.isNegative then ['-'] else []
  match x with
  | .finite _ (m + 1) exponent =>
    let (n, e) := f.decimalFrom (m + 1) exponent (-columnPlaces)
    let digits := decimal n
    let (whole, fraction) :=
      (Floating.positional digits (e + digits.length) true).span (· ≠ '.')
    let isWhole := n = 0 ∨ 0 ≤ e
    ⟨sign ++ whole, if isWhole then [] else fraction.drop 1, 0⟩
  | _ => ⟨sign ++ ['0'], [], 0⟩

/-- A finite number with one digit before the point. -/
def scientific (f : Format) (x : Floating) : NumeralParts :=
  let sign := if x.isNegative then ['-'] else []
  match x with
  | .finite _ (m + 1) exponent =>
    let (n, e) := f.decimalFrom (m + 1) exponent (log10 (m + 1) exponent - columnPlaces)
    let digits := decimal n
    ⟨sign ++ digits.take 1, digits.drop 1, e + digits.length - 1⟩
  | _ => ⟨sign ++ ['0'], [], 0⟩

end NumeralParts

/-- How the numbers of a column are written. -/
structure Column where
  format : Format
  isScientific : Bool
  /-- The characters before the point. -/
  left : Nat
  /-- The characters after the point, the exponent among them. -/
  right : Nat
  /-- The digits after the point and of the exponent, for numbers with an exponent. -/
  places : Nat
  powerDigits : Nat

namespace Column

/-- The size of a finite number other than zero. -/
def size? : Floating → Option Rat
  | .finite _ (m + 1) exponent => (Floating.finite false (m + 1) exponent).toRat?
  | _ => none

/-- Whether numbers of these sizes need exponents: some is too large or too small, or two are more
than a thousandfold apart. -/
def needsPowers (f : Format) (sizes : List Rat) : Bool :=
  let tooLarge : Rat := Nat.pow 10 (min columnPlaces f.decimalDigits)
  sizes.any fun a =>
    tooLarge ≤ a || a < mkRat 1 10000 || sizes.any fun b => 1000 * b < a

def widest (texts : List (List Char)) : Nat := (texts.map List.length).foldl max 0

/-- The column that holds the given numbers. -/
def ofNumbers (f : Format) (xs : List Floating) : Column :=
  let finite := xs.filter fun x => x.toRat?.isSome
  let isScientific := needsPowers f (xs.filterMap size?)
  let parts := finite.map fun x =>
    if isScientific then NumeralParts.scientific f x else .positional f x
  let places := widest (parts.map (·.fraction))
  let powerDigits := widest (parts.map fun p => atLeast 2 p.power.natAbs)
  let right := if isScientific then powerDigits + 2 + places else places
  let words := (if xs.any (· == .infinite true) then 4 else 3) - (right + 1)
  let left := widest (parts.map (·.whole))
  ⟨f, isScientific, if finite.length = xs.length then left else max left words, right, places,
    powerDigits⟩

def blanks (n : Nat) : List Char := List.replicate n ' '

/-- The text of a number in a column. -/
def text (c : Column) (x : Floating) : String :=
  String.ofList (match x with
    | .finite .. =>
      if c.isScientific then
        let p := NumeralParts.scientific c.format x
        blanks (c.left - p.whole.length) ++ p.whole ++ '.' :: p.fraction
          ++ List.replicate (c.places - p.fraction.length) '0'
          ++ 'e' :: (if p.power < 0 then '-' else '+') :: atLeast c.powerDigits p.power.natAbs
      else
        let p := NumeralParts.positional c.format x
        blanks (c.left - p.whole.length) ++ p.whole ++ '.' :: p.fraction
          ++ blanks (c.right - p.fraction.length)
    | x =>
      let word := (x.render c.format false).toList
      blanks (c.left + c.right + 1 - word.length) ++ word)

end Column

end DataShape.Floating
