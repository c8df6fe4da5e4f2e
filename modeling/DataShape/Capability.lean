import DataShape.Value.Container

/-!
# Capabilities

What a type can do: it says which properties its fields may declare, checks the options of a field
when a schema is compiled, and decides whether a value belongs to it. The compiler and the validator
use types through this interface alone.
-/

namespace DataShape

structure Capability where
  /-- What the capability is called in messages. -/
  label : String
  /-- The tag under which it is registered by default. -/
  name : String
  /-- Values that stand for the tag. -/
  aliases : List Value := []
  /-- The properties that a field of the type may declare besides its type. -/
  properties : List String
  /-- Whether a value belongs to the type under the options of a field. -/
  accepts : (value : Value) → (field : Entries) → Except Fault Bool
  /-- Checks the options of a field at a path, and gives the field as it is to be kept. -/
  checkField : (field : Entries) → (path : Option String) → Except Fault Entries :=
    fun field _ => .ok field
  /-- Whether a value counts as not given in a required field. -/
  isEmpty : (value : Value) → (field : Entries) → Except Fault Bool :=
    fun value field =>
      match value with
      | .missing => .ok true
      | _ => (accepts value field).map not

namespace Capability

/-- How a capability is shown. -/
def repr (c : Capability) : String := "<" ++ c.label ++ " " ++ Text.quoted c.name ++ ">"

end Capability

namespace Path

/-- A path as a value, where no path is nothing. -/
def toValue : Option String → Value
  | none => .null
  | some path => .text path

end Path

namespace Entries

variable {α : Type}

/-- The value of an option of a field. -/
def option? (field : List (Value × α)) (name : String) : Option α := Entries.get? field (.text name)

/-- Whether an option is the truth value "true" and nothing that merely counts as true. -/
def isOn (field : Entries) (name : String) : Bool :=
  match Entries.option? field name with
  | some (.bool true) => true
  | _ => false

def setOption (field : List (Value × α)) (name : String) (v : α) : List (Value × α) :=
  Entries.insert (.text name) v field

end Entries

end DataShape
