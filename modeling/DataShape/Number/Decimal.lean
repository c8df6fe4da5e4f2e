import DataShape.Number.Numeral

/-!
# Decimal numbers

Numbers that keep the digits they are written with: `1.50` and `1.5` are equal and are shown apart.
-/

namespace DataShape

open Text

inductive Decimal where
  | finite (negative : Bool) (digits : Nat) (exponent : Int)
  | infinite (negative : Bool)
  /-- Not a number, with the digits that may follow the word; a signalling one refuses use. -/
  | nan (negative signalling : Bool) (payload : Option Nat)
deriving DecidableEq, Inhabited

namespace Decimal

def toRat? : Decimal → Option Rat
  | .finite negative digits exponent =>
    let size : Rat := mkRat (digits * Nat.pow 10 exponent.toNat) (Nat.pow 10 (-exponent).toNat)
    some (if negative then -size else size)
  | _ => none

/-- Splits a word off the front of a text, whatever its case. -/
def afterWord? (word : String) (cs : List Char) : Option (List Char) :=
  let n := word.length
  if lowerLatin (String.ofList (cs.take n)) = word then some (cs.drop n) else none

/-- The payload of a word for no number: nothing or digits. -/
def readPayload? (cs : List Char) : Option (Option Nat) :=
  if cs.isEmpty then some none else (readDecimal? cs).map some

/-- A whole text as a decimal number, between blanks and with underscores ignored. -/
def read? (s : String) : Option Decimal :=
  let cs := (trim s.toList).filter (· ≠ '_')
  match Numeral.read? (Floating.latinDigits cs) with
  | some n => some (.finite n.negative n.digits n.exponent)
  | none =>
    let (negative, cs) := Numeral.sign cs
    if lowerLatin (String.ofList cs) = "inf" ∨ lowerLatin (String.ofList cs) = "infinity" then
      some (.infinite negative)
    else match afterWord? "nan" cs, afterWord? "snan" cs with
      | some rest, _ => (readPayload? rest).map (.nan negative false)
      | none, some rest => (readPayload? rest).map (.nan negative true)
      | none, none => none

/-- The text of a decimal number: positional unless the exponent is positive or the number is below
a millionth of its digits. -/
def display : Decimal → String
  | .infinite negative => if negative then "-Infinity" else "Infinity"
  | .nan negative signalling payload =>
    (if negative then "-" else "") ++ (if signalling then "sNaN" else "NaN")
      ++ (payload.elim "" fun n => String.ofList (decimal n))
  | .finite negative n exponent =>
    let digits := decimal n
    let power := exponent + digits.length - 1
    let body :=
      if exponent ≤ 0 ∧ -6 ≤ power then
        if exponent = 0 then digits else Floating.positional digits (power + 1) false
      else
        let mantissa := match digits with
          | [] => []
          | [d] => [d]
          | d :: rest => d :: '.' :: rest
        mantissa ++ 'E' :: (if power < 0 then '-' else '+') :: decimal power.natAbs
    String.ofList ((if negative then ['-'] else []) ++ body)

end Decimal

end DataShape
