import DataShape.Text.Digits

/-!
# Calendar days

Days of the years 1 to 9999 in the calendar that is extended backwards to year 1, and their place in
the count of days.
-/

namespace DataShape

open Text

structure Date where
  year : Nat
  month : Nat
  day : Nat
deriving DecidableEq, Inhabited

namespace Date

def isLeap (year : Nat) : Bool :=
  year % 4 = 0 && (year % 100 ≠ 0 || year % 400 = 0)

def daysInMonth (year month : Nat) : Nat :=
  if month = 2 then if isLeap year then 29 else 28
  else if month = 4 ∨ month = 6 ∨ month = 9 ∨ month = 11 then 30
  else 31

/-- What makes three numbers no day of the calendar; the first part that is wrong counts. -/
inductive Defect where
  | year (year : Nat)
  | month
  | day
deriving DecidableEq

def Defect.message : Defect → String
  | .year n => "year " ++ toString n ++ " is out of range"
  | .month => "month must be in 1..12"
  | .day => "day is out of range for month"

def ofParts (year month day : Nat) : Except Defect Date :=
  if year < 1 ∨ 9999 < year then .error (.year year)
  else if month < 1 ∨ 12 < month then .error .month
  else if day < 1 ∨ daysInMonth year month < day then .error .day
  else .ok ⟨year, month, day⟩

def ofParts? (year month day : Nat) : Option Date := (ofParts year month day).toOption

/-- The days from the first day of year 1 up to and including this one. -/
def ordinal (d : Date) : Nat :=
  let y := d.year - 1
  let months := (List.range (d.month - 1)).foldl (fun n m => n + daysInMonth d.year (m + 1)) 0
  y * 365 + y / 4 - y / 100 + y / 400 + months + d.day

/-- A day as year, month and day with hyphens between. -/
def iso (d : Date) : String :=
  String.ofList (atLeast 4 d.year ++ '-' :: padded 10 2 d.month ++ '-' :: padded 10 2 d.day)

end Date

end DataShape
