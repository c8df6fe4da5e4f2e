import DataShape.Capability.Builtin

/-!
# Matching the elements of an array

Each element must match one of the alternatives of the array. They are tried in order up to the
first trial that finds no error; the errors of the other trials are dropped, and an element that
matches no alternative gets one error of its own. The trials run in any monad, so that they can be
observed.
-/

namespace DataShape.Matching

/-- Tries a value against a field, under a name and the path of the parent. -/
abbrev Trial (m : Type → Type) := (value field name parent : Value) → m ErrorSet

def noMatch : String := "not of the correct type"

def emptyArray (path : Value) : String :=
  "array \"" ++ path.filled ++ "\" is required, but left empty"

/-- The name of the element at an index. -/
def segment (i : Nat) : Value := .text (Path.index i)

variable {m : Type → Type} [Monad m]

/-- Whether some alternative matches an element; the ones after it are not tried. -/
def matchesAny (trial : Trial m) (element : Value) (i : Nat) (path : Value) :
    List Value → m Bool
  | [] => pure false
  | alternative :: rest => do
    if (← trial element alternative (segment i) path).isEmpty then pure true
    else matchesAny trial element i path rest

variable [MonadExceptOf Fault m]

/-- A result that may be a fault, as a step of the monad. -/
def lift {α : Type} : Except Fault α → m α
  | .ok a => pure a
  | .error fault => throw fault

/-- The errors of the elements from index `i` on, added to the ones before. -/
def matchElements (trial : Trial m) (alternatives : List Value) (path : Value) (i : Nat)
    (errors : ErrorSet) : List Value → m ErrorSet
  | [] => pure errors
  | element :: rest => do
    if ← matchesAny trial element i path alternatives then
      matchElements trial alternatives path (i + 1) errors rest
    else
      let place ← lift (Path.joinValue path (segment i))
      matchElements trial alternatives path (i + 1) (errors.put place noMatch) rest

/-- The errors of a sequence under the schema of an array at a path. -/
def matchArray (trial : Trial m) (sequence field path : Value) : m ErrorSet := do
  if !Capability.isSequence sequence then
    lift sequence.checkWritable
    throw (Fault.notSequence sequence)
  match field with
  | .null => throw Fault.noArraySchema
  | .mapping _ options =>
    let isLeftEmpty ←
      if Entries.isOn options "required" then (· == 0) <$> lift sequence.length else pure false
    if isLeftEmpty then
      lift path.checkWritable
      pure [(path, emptyArray path)]
    else
      let child := (Entries.option? options "child").getD .null
      if !child.isTrue then pure []
      else
        let elements ← lift sequence.walk
        if elements.isEmpty then pure []
        else matchElements trial (← lift child.walk) path 0 [] elements
  | v => throw (Fault.notAsked v "get")

end DataShape.Matching
