import DataShape.Capability.Builtin

/-!
# Registries

Which capability each type tag has, and which other values stand for a tag. The last registration of
a tag or of an alias wins; a tag keeps its first place. An alias leads to a tag, so a new capability
for the tag serves its aliases too.
-/

namespace DataShape

/-- What is registered: a capability, or a value that is none. -/
inductive Candidate where
  | capability (c : Capability)
  | other (v : Value)

structure Registry where
  types : List (String × Capability) := []
  aliases : List (Value × String) := []

namespace Registry

/-- Puts a value under a key, in its old place or last. -/
def assign {κ α : Type} (same : κ → κ → Bool) (key : κ) (v : α) : List (κ × α) → List (κ × α)
  | [] => [(key, v)]
  | e :: rest => if same key e.1 then (e.1, v) :: rest else e :: assign same key v rest

def setType (r : Registry) (tag : String) (c : Capability) : Registry :=
  { r with types := assign (· == ·) tag c r.types }

/-- Records one alias, which must be able to serve as a key. -/
def setAlias (r : Registry) (tag : String) (v : Value) : Except Fault Registry :=
  match v.unhashable? with
  | some reason => .error (.unhashable reason)
  | none => .ok { r with aliases := assign Value.sameKey v tag r.aliases }

/-- Records aliases one after the other, up to the first that cannot be recorded. -/
def setAliases (tag : String) : List Value → Registry → Registry × Option Fault
  | [], r => (r, none)
  | v :: rest, r =>
    match r.setAlias tag v with
    | .ok r => setAliases tag rest r
    | .error fault => (r, some fault)

/-- Registers a candidate under a tag. What was recorded before a fault stays recorded. -/
def register (r : Registry) (tag : Value) (candidate : Candidate) (aliases : Value) :
    Registry × Option Fault :=
  match tag.text? with
  | none => (r, some (if tag.isWritable then .badTag tag else .integerTooLong))
  | some name =>
    if name.isEmpty then (r, some (.badTag tag))
    else match candidate with
      | .other v => (r, some (.notCapability name v))
      | .capability c =>
        let r := r.setType name c
        match aliases.walk with
        | .ok vs => setAliases name vs r
        | .error fault => (r, some fault)

/-- The tags in the order of their first registration. -/
def tags (r : Registry) : List String := r.types.map Prod.fst

/-- The tag that a tag or an alias leads to. A text leads to itself alone. -/
def resolve? (r : Registry) (v : Value) : Option String :=
  match v.text? with
  | some s => if r.tags.contains s then some s else none
  | none =>
    if v.isHashable then (r.aliases.find? fun e => v.sameKey e.1).map Prod.snd else none

def capability? (r : Registry) (tag : String) : Option Capability := r.types.lookup tag

/-- The capability that a tag or an alias leads to. -/
def lookup? (r : Registry) (v : Value) : Option Capability := (r.resolve? v).bind r.capability?

def contains (r : Registry) (v : Value) : Bool := (r.resolve? v).isSome

/-- Registers a capability under its own name, with its own aliases. -/
def add (r : Registry) (c : Capability) : Registry :=
  (r.register (.text c.name) (.capability c) (.list c.aliases)).1

/-- The registry that holds the built-in types. -/
def builtin : Registry := Capability.builtins.foldl add {}

end Registry

end DataShape
