import DataShape.Number.Floating

/-!
# Shortest decimals

The decimal with the fewest digits among those that round to a given finite datum, and of these the
nearest to it. On the grid of `n`-digit decimals only the two neighbours of the datum need a look:
if any point of the grid rounds to it, one of these does.
-/

namespace DataShape.Floating

/-- The mantissa and exponent of a finite non-zero datum on the grid of the format. -/
def Format.grid (f : Format) (mantissa : Nat) (exponent : Int) : Nat × Int :=
  let e := max f.minExponent ((mantissa.log2 : Int) + exponent - f.precision + 1)
  (mantissa * Nat.pow 2 (exponent - e).toNat, e)

/-- The reals that round to a datum, in quarters of its last place. -/
structure Interval where
  low : Nat
  value : Nat
  high : Nat
  /-- Whether the end points belong to the interval. -/
  closed : Bool
  /-- The exponent of two of one quarter. -/
  exponent : Int

def Format.interval (f : Format) (mantissa : Nat) (exponent : Int) : Interval :=
  let (m, e) := f.grid mantissa exponent
  let below := if m = Nat.pow 2 (f.precision - 1) ∧ f.minExponent < e then 1 else 2
  ⟨4 * m - below, 4 * m, 4 * m + 2, m % 2 = 0, e - 2⟩

/-- The greatest `k` with `10 ^ k ≤ mantissa · 2 ^ exponent`, for a positive mantissa. -/
def log10 (mantissa : Nat) (exponent : Int) : Int :=
  let atMost (k : Int) : Bool :=
    Nat.pow 10 k.toNat * Nat.pow 2 (-exponent).toNat
      ≤ mantissa * Nat.pow 2 exponent.toNat * Nat.pow 10 (-k).toNat
  let guess := Int.fdiv (((mantissa.log2 : Int) + exponent) * 30103) 100000
  if atMost (guess + 1) then guess + 1 else if atMost guess then guess else guess - 1

/-- The neighbour of the value on the grid of multiples of `10 ^ place` that lies in the interval,
the nearer one of two. -/
def Interval.pick? (i : Interval) (place : Int) : Option Nat :=
  let a := Nat.pow 2 i.exponent.toNat * Nat.pow 10 (-place).toNat
  let b := Nat.pow 2 (-i.exponent).toNat * Nat.pow 10 place.toNat
  let value := i.value * a
  let inside (d : Nat) : Bool :=
    if i.closed then i.low * a ≤ d * b && d * b ≤ i.high * a
    else i.low * a < d * b && d * b < i.high * a
  let lower := value / b
  let upper := lower + 1
  let down := value - lower * b
  let up := upper * b - value
  match inside lower, inside upper with
  | true, true =>
    some (if down < up ∨ (down = up ∧ lower % 2 = 0) then lower else upper)
  | true, false => some lower
  | false, true => some upper
  | false, false => none

/-- Moves the factors of ten of the digits into the exponent. -/
def trimZeros (digits : Nat) (exponent : Int) : Nat × Int :=
  if h : digits = 0 then (0, 0)
  else if digits % 10 = 0 then trimZeros (digits / 10) (exponent + 1)
  else (digits, exponent)
termination_by digits
decreasing_by omega

/-- The digits and the decimal exponent of the shortest decimal of a finite non-zero datum.
Seventeen digits always suffice for the formats in use. -/
def Format.shortest (f : Format) (mantissa : Nat) (exponent : Int) : Nat × Int :=
  let i := f.interval mantissa exponent
  let top := log10 mantissa exponent
  let hit (n : Nat) : Option (Nat × Int) :=
    let place := top - n
    (i.pick? place).map fun digits => (digits, place)
  let (digits, place) := ((List.range 17).findSome? hit).getD (0, 0)
  trimZeros digits place

end DataShape.Floating
