import DataShape.Compilation
import DataShape.Validation

/-!
# Schemas

A compiled schema with the depth that it was compiled under. The registry stays outside, so that
types registered later are seen by later checks.
-/

namespace DataShape

/-- The nesting depth of schemas that is accepted by default. -/
def defaultDepth : Int := 64

structure Schema where
  fields : Entries := []
  maxDepth : Int := defaultDepth

namespace Schema

/-- Compiles a schema. -/
def compile (r : Registry) (maxDepth : Int) (raw : Value) : Except Fault Schema :=
  (compileSchema r maxDepth none raw).map fun fields => ⟨fields, maxDepth⟩

def toValue (s : Schema) : Value := .dict s.fields

/-- How a schema is shown: by the names of its fields. -/
def repr (s : Schema) : String :=
  "Schema(fields=" ++ bracketed ((Entries.keys s.fields).map Value.repr) ++ ")"

/-- The errors of a value under this schema, or under a canonical one given instead. -/
def errors (r : Registry) (s : Schema) (value canonical parent : Value) : Except Fault ErrorSet :=
  match canonical with
  | .null => validateObject r value s.toValue parent
  | schema => validateObject r value schema parent

/-- Accepts a value without errors. -/
def validate (r : Registry) (s : Schema) (value canonical parent : Value) : Except Fault Unit := do
  let errors ← s.errors r value canonical parent
  if errors.isEmpty then pure ()
  else if errors.all fun e => e.1.isWritable then .error (.invalid errors)
  else .error .integerTooLong

def isValid (r : Registry) (s : Schema) (value : Value) : Except Fault Bool :=
  (s.errors r value .null .null).map List.isEmpty

end Schema

end DataShape
