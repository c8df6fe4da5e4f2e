import DataShape.Value.Equality

/-!
# Error sets

The errors found in a value: a message for each failing path, in the order in which the paths were
first reported. A later message for a path replaces the earlier one and keeps its place.
-/

namespace DataShape

abbrev ErrorSet := List (Value × String)

namespace ErrorSet

def put (path : Value) (message : String) : ErrorSet → ErrorSet
  | [] => [(path, message)]
  | e :: rest => if path.sameKey e.1 then (e.1, message) :: rest else e :: put path message rest

/-- Adds the errors of the second set to the first, one after the other. -/
def merge (errors more : ErrorSet) : ErrorSet :=
  more.foldl (fun errors e => errors.put e.1 e.2) errors

theorem merge_nil (errors : ErrorSet) : errors.merge [] = errors := rfl

theorem put_ne_nil (path : Value) (message : String) (errors : ErrorSet) :
    errors.put path message ≠ [] := by
  cases errors with
  | nil => simp [put]
  | cons e rest => unfold put; split <;> simp

/-- A path that is not there yet goes last. -/
theorem put_of_fresh {path : Value} (message : String) :
    ∀ {errors : ErrorSet}, (∀ e ∈ errors, path.sameKey e.1 = false) →
      errors.put path message = errors ++ [(path, message)]
  | [], _ => rfl
  | e :: rest, h => by
      obtain ⟨hne, hrest⟩ := List.forall_mem_cons.mp h
      rw [put, hne, if_neg Bool.false_ne_true, put_of_fresh message hrest]
      rfl

end ErrorSet

end DataShape
