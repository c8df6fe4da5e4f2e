import DataShape.Number.Numeral

/-!
# Complex numbers

The text of a complex number, and the number of a text: a real part, an imaginary part with the unit
`j`, or both with a sign between.
-/

namespace DataShape.Complex

/-- A complex number: the imaginary part alone if the real part is a plain zero. -/
def display (re im : Floating) : String :=
  let part (x : Floating) := x.render .double false
  let signed := match im with
    | .nan | .infinite false | .finite false .. => "+" ++ part im
    | _ => part im
  if re = Floating.zero then part im ++ "j" else "(" ++ part re ++ signed ++ "j)"

/-- Splits a text before the last sign that neither begins it nor belongs to an exponent. -/
def splitSign (cs : List Char) : List Char × List Char :=
  let rec go (front : List Char) (previous : Char) (best : List Char × List Char) :
      List Char → List Char × List Char
    | [] => best
    | c :: rest =>
      let here := (c = '+' ∨ c = '-') ∧ previous ≠ 'e' ∧ previous ≠ 'E' ∧ front ≠ []
      go (c :: front) c (if here then (front.reverse, c :: rest) else best) rest
  go [] ' ' (cs, []) cs

def read? (s : String) : Option (Floating × Floating) := do
  let cs := s.toList.filter fun c => c ≠ '(' ∧ c ≠ ')'
  let number (cs : List Char) : Option Floating := Floating.read? (String.ofList cs)
  if cs.getLast? = some 'j' then
    let (front, back) := splitSign cs.dropLast
    let (re, im) := if back.isEmpty then ([], front) else (front, back)
    let unit (cs : List Char) := if cs = [] ∨ cs = ['+'] ∨ cs = ['-'] then cs ++ ['1'] else cs
    pure (← if re.isEmpty then some Floating.zero else number re, ← number (unit im))
  else pure (← number cs, Floating.zero)

end DataShape.Complex
