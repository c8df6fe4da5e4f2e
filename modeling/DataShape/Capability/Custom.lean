import DataShape.Capability

/-!
# Further types

Small types beside the built-in ones, to be registered where they are wanted: even numbers, words in
capitals, everything, nothing, and integers between bounds.
-/

namespace DataShape.Capability

/-- The integer that a value is, if it is one and no truth value. -/
def integer? : Value → Option Int
  | .int n => some n
  | _ => none

def even : Capability where
  label := "EvenType"
  name := "even"
  properties := ["required", "enum"]
  accepts v _ := .ok ((integer? v).any fun n => n % 2 == 0)

/-- Texts of one or more capital letters of the Latin alphabet. -/
def upper : Capability where
  label := "UpperType"
  name := "upper"
  properties := ["required"]
  accepts v _ :=
    .ok (v.text?.any fun s => !s.isEmpty && s.toList.all fun c => 'A' ≤ c && c ≤ 'Z')

def anything : Capability where
  label := "AnyType"
  name := "any"
  properties := ["required", "enum", "child", "note"]
  accepts _ _ := .ok true

def nothing : Capability where
  label := "NeverType"
  name := "never"
  properties := ["required", "enum"]
  accepts _ _ := .ok false

/-- Whether an integer keeps to a bound, where there is one. -/
def keepsTo (within : Int → Bool) (bound : Option Value) : Bool :=
  match bound with
  | none => true
  | some v => (integer? v).any within

/-- Accepts a bound that is absent or an integer. -/
def checkBound (field : Entries) (path : Option String) (name : String) : Except Fault Unit :=
  match Entries.option? field name with
  | none => .ok ()
  | some v =>
    if (integer? v).isSome then .ok ()
    else .error (.rejected (.notInteger name) (Path.toValue path))

/-- Integers from `min` to `max`, as far as these are given; zero counts as not given. -/
def range : Capability where
  label := "RangeType"
  name := "range"
  properties := ["required", "enum", "min", "max"]
  accepts v field :=
    .ok (match integer? v with
      | none => false
      | some n =>
        keepsTo (· ≤ n) (Entries.option? field "min")
          && keepsTo (n ≤ ·) (Entries.option? field "max"))
  checkField field path := do
    checkBound field path "min"
    checkBound field path "max"
    pure field
  isEmpty v _ :=
    match v with
    | .missing => .ok true
    | v => v.equals (.int 0)

end DataShape.Capability
