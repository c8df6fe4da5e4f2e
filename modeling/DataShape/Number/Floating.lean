/-!
# Binary floating-point data

A datum is exact: a sign, a mantissa and a power of two, with the mantissa odd or the datum zero,
so that two finite data of one sign are equal as numbers only if they are equal. A `Format` says
which of them a machine format holds, and rounds any fraction to the nearest of those, ties to the
even mantissa.
-/

namespace DataShape

inductive Floating where
  | nan
  | infinite (negative : Bool)
  | finite (negative : Bool) (mantissa : Nat) (exponent : Int)
deriving DecidableEq, Inhabited

namespace Floating

/-- Moves the factors of two of the mantissa into the exponent. -/
def oddPart (mantissa : Nat) (exponent : Int) : Nat × Int :=
  if h : mantissa = 0 then (0, 0)
  else if mantissa % 2 = 0 then oddPart (mantissa / 2) (exponent + 1)
  else (mantissa, exponent)
termination_by mantissa
decreasing_by omega

/-- The datum `± mantissa · 2 ^ exponent`. -/
def scaled (negative : Bool) (mantissa : Nat) (exponent : Int) : Floating :=
  let (m, e) := oddPart mantissa exponent
  .finite negative m e

def zero : Floating := .finite false 0 0

/-- The value of a finite datum. -/
def toRat? : Floating → Option Rat
  | .finite negative mantissa exponent =>
    let size : Rat := mkRat (mantissa * Nat.pow 2 exponent.toNat) (Nat.pow 2 (-exponent).toNat)
    some (if negative then -size else size)
  | _ => none

def isNan : Floating → Bool
  | .nan => true
  | _ => false

def isZero : Floating → Bool
  | .finite _ 0 _ => true
  | _ => false

/-- A machine format: the bits of the mantissa, the least exponent of an integral mantissa, and the
power of two that no datum reaches. -/
structure Format where
  precision : Nat
  minExponent : Int
  maxExponent : Int
deriving DecidableEq

namespace Format

def double : Format := ⟨53, -1074, 1024⟩

def single : Format := ⟨24, -149, 128⟩

def half : Format := ⟨11, -24, 16⟩

/-- The number of significant digits that survive in the format whatever they are. -/
def decimalDigits (f : Format) : Nat := (f.precision - 1) * 30103 / 100000

end Format

/-- The greatest `k` with `2 ^ k ≤ num / den`, for positive `num` and `den`. -/
def log2Ratio (num den : Nat) : Int :=
  let k : Int := (num.log2 : Int) - den.log2
  if den * Nat.pow 2 k.toNat ≤ num * Nat.pow 2 (-k).toNat then k else k - 1

/-- The integer nearest to `num / den`, the even one of two. -/
def nearest (num den : Nat) : Nat :=
  let q := num / den
  let r := num % den
  if 2 * r < den ∨ (2 * r = den ∧ q % 2 = 0) then q else q + 1

/-- The datum of the format nearest to `± num / den`; what is too large becomes infinite. -/
def Format.round (f : Format) (negative : Bool) (num den : Nat) : Floating :=
  if num = 0 then .finite negative 0 0
  else
    let e := max f.minExponent (log2Ratio num den - f.precision + 1)
    let q := nearest (num * Nat.pow 2 (-e).toNat) (den * Nat.pow 2 e.toNat)
    if q ≠ 0 ∧ f.maxExponent ≤ q.log2 + e then .infinite negative else scaled negative q e

def Format.ofRat (f : Format) (q : Rat) : Floating :=
  f.round (q < 0) q.num.natAbs q.den

def isNegative : Floating → Bool
  | .infinite negative | .finite negative _ _ => negative
  | .nan => false

def negate : Floating → Floating
  | .nan => .nan
  | .infinite negative => .infinite !negative
  | .finite negative mantissa exponent => .finite (!negative) mantissa exponent

/-- The sum of two data, rounded. A sum of zeros is negative if both are. -/
def Format.add (f : Format) (x y : Floating) : Floating :=
  match x, y with
  | .nan, _ | _, .nan => .nan
  | .infinite a, .infinite b => if a = b then x else .nan
  | .infinite _, _ => x
  | _, .infinite _ => y
  | _, _ =>
    if x.isZero && y.isZero then .finite (x.isNegative && y.isNegative) 0 0
    else f.ofRat (x.toRat?.getD 0 + y.toRat?.getD 0)

/-- The product of two data, rounded. -/
def Format.mul (f : Format) (x y : Floating) : Floating :=
  let negative := x.isNegative ^^ y.isNegative
  match x.toRat?, y.toRat? with
  | some p, some q =>
    let r := p * q
    f.round negative r.num.natAbs r.den
  | _, _ => if x.isNan || y.isNan || x.isZero || y.isZero then .nan else .infinite negative

/-- The number of decimal digits of `n`, where zero has none. -/
def digitCount (n : Nat) : Nat := if n = 0 then 0 else (Nat.toDigits 10 n).length

/-- The datum nearest to `± digits · 10 ^ exponent`. Exponents beyond every format are decided
without the power. -/
def Format.ofDecimal (f : Format) (negative : Bool) (digits : Nat) (exponent : Int) : Floating :=
  let magnitude := exponent + digitCount digits
  if digits = 0 ∨ magnitude < -400 then .finite negative 0 0
  else if 400 < magnitude then .infinite negative
  else f.round negative (digits * Nat.pow 10 exponent.toNat) (Nat.pow 10 (-exponent).toNat)

/-- The same number in another format. -/
def Format.convert (f : Format) : Floating → Floating
  | .finite negative mantissa exponent =>
    f.round negative (mantissa * Nat.pow 2 exponent.toNat) (Nat.pow 2 (-exponent).toNat)
  | x => x

end Floating

end DataShape
