import DataShape.Value.Basic

/-!
# Paths

The place of a field: the names on the way to it with dots between, and indices in brackets right
after the name. A path is a text, except that the name of an outermost field stands for itself
whatever value it is; nothing and other values that count as false are no parent.
-/

namespace DataShape.Path

/-- The segment for the element of an array at an index. -/
def index (i : Nat) : String := "[" ++ toString i ++ "]"

/-- What stands between a path and a further segment. -/
def separator (name : String) : String :=
  if name.toList.head? = some '[' then "" else "."

/-- The path of a named part. -/
def join (parent : Option String) (name : String) : String :=
  match parent with
  | none => name
  | some parent => if parent.isEmpty then name else parent ++ separator name ++ name

theorem join_none (name : String) : join none name = name := rfl

theorem join_empty (name : String) : join (some "") name = name := by simp [join]

end DataShape.Path
