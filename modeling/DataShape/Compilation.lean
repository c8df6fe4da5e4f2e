import DataShape.Registry

/-!
# Compilation

Brings a schema into canonical form. A bare type stands for a field of that type, a bare sequence
for an array with these alternatives, and a bare mapping without a `type` for an object with these
fields. Every field ends up as a plain mapping with a registered tag as its `type`, and with a
`child` if it is an object or an array. The first defect found ends the compilation.

The number of levels still allowed bounds the recursion.
-/

namespace DataShape

namespace Compilation

/-- The field that a short form stands for, as a fresh mapping with a `type`. -/
def expand? (r : Registry) (raw : Value) : Option Entries :=
  if r.contains raw then some [(.text "type", raw)]
  else match raw with
    | .sequence _ items =>
      some [(.text "type", .text Capability.arrayTag), (.text "child", .list items)]
    | .mapping _ entries =>
      if (Entries.option? entries "type").isSome then some entries
      else some [(.text "type", .text Capability.objectTag), (.text "child", .dict entries)]
    | _ => none

def reject {α : Type} (path : Option String) (defect : Defect) : Except Fault α :=
  .error (.rejected defect (Path.toValue path))

/-- The path of a property, which below another path must be a text. -/
def propertyPath (path : Option String) (property : Value) : Except Fault String := do
  let place ← Path.joinValue (Path.toValue path) property
  place.checkWritable
  pure place.filled

/-- Accepts the properties that the type knows. -/
def checkProperties (c : Capability) (path : Option String) : Entries → Except Fault Unit
  | [] => .ok ()
  | (property, _) :: rest =>
    if property.text?.any fun name => name == "type" || c.properties.contains name then
      checkProperties c path rest
    else do reject path (.unknownProperty (← propertyPath path property))

def checkRequired (path : Option String) (field : Entries) : Except Fault Unit :=
  match Entries.option? field "required" with
  | none | some (.bool _) => .ok ()
  | some _ => reject path (.notBoolean "required")

/-- Accepts options that belong to the type, counting from `i`. -/
def checkOptions (c : Capability) (path : Option String) (field : Entries) (i : Nat) :
    List Value → Except Fault Unit
  | [] => .ok ()
  | v :: rest => do
    if ← c.accepts v field then checkOptions c path field (i + 1) rest
    else reject path (.enumMismatch i)

/-- Accepts the options that are listed for a field. The type is looked up again, since the check of
its own options may have set another; one that is not registered cannot be asked for any option. -/
def checkListed (r : Registry) (path : Option String) (field : Entries) (options : List Value) :
    Except Fault Unit :=
  match Entries.option? field "type" with
  | none => .error (.noEntry "type")
  | some tag =>
    match r.lookup? tag, options with
    | some c, options => checkOptions c path field 0 options
    | none, [] => .ok ()
    | none, _ :: _ => .error (.noMember .null "validate_type")

/-- Keeps the `enum` of a field as a list of values of the type. -/
def checkEnum (r : Registry) (path : Option String) (field : Entries) : Except Fault Entries :=
  match Entries.option? field "enum" with
  | none => .ok field
  | some (.sequence _ options) => do
    checkListed r path field options
    pure (Entries.setOption field "enum" (.list options))
  | some _ => reject path .enumNotList

/-- Checks everything about a field but its children. -/
def checkField (r : Registry) (c : Capability) (path : Option String) (field : Entries) :
    Except Fault Entries := do
  checkProperties c path field
  checkRequired path field
  checkEnum r path (← c.checkField field path)

/-- How a field is compiled, given its path. -/
abbrev FieldCompiler := Option String → Value → Except Fault Entries

/-- Compiles the fields of an object in their order. -/
def compileFields (compile : FieldCompiler) (path : Option String) :
    Entries → Except Fault Entries
  | [] => .ok []
  | (name, raw) :: rest => do
    name.checkWritable
    let field ← compile (some (Path.join path name.display)) raw
    let fields ← compileFields compile path rest
    pure ((name, .dict field) :: fields)

/-- Compiles the alternatives of an array in their order, counting from `i`. -/
def compileAlternatives (compile : FieldCompiler) (path : Option String) (i : Nat) :
    List Value → Except Fault (List Value)
  | [] => .ok []
  | raw :: rest => do
    let field ← compile (some (Path.join path (Path.index i))) raw
    let fields ← compileAlternatives compile path (i + 1) rest
    pure (.dict field :: fields)

/-- Compiles the children of a field: the fields of an object or the alternatives of an array. -/
def compileChildren (compile : FieldCompiler) (path : Option String) (tag : String)
    (field : Entries) : Except Fault Entries :=
  if tag = Capability.objectTag then
    match (Entries.option? field "child").getD (.dict []) with
    | .mapping _ entries => do
      pure (Entries.setOption field "child" (.dict (← compileFields compile path entries)))
    | _ => reject path .childNotMapping
  else if tag = Capability.arrayTag then
    match (Entries.option? field "child").getD (.list []) with
    | .sequence _ items => do
      pure (Entries.setOption field "child" (.list (← compileAlternatives compile path 0 items)))
    | _ => reject path .childNotList
  else .ok field

end Compilation

open Compilation

/-- Refuses a field that is too deep; the limit itself may be too long to be told. -/
def rejectDepth {α : Type} (path : Option String) (limit : Int) : Except Fault α :=
  if Text.isTooLong limit then .error .integerTooLong else reject path (.tooDeep limit)

/-- Compiles one field at a path. -/
def compileField (r : Registry) (limit : Int) : (levels : Nat) → FieldCompiler
  | 0, path, _ => rejectDepth path limit
  | levels + 1, path, raw =>
    match expand? r raw with
    | none => reject path .unknownType
    | some form =>
      match r.resolve? ((Entries.option? form "type").getD .null) with
      | none => reject path .unknownType
      | some tag =>
        match r.capability? tag with
        | none => reject path .unknownType
        | some c => do
          let field := Entries.setOption form "type" (.text tag)
          checkField r c path (← compileChildren (compileField r limit levels) path tag field)

/-- Compiles the fields of an object schema. -/
def compileSchema (r : Registry) (limit : Int) (path : Option String) (raw : Value) :
    Except Fault Entries :=
  match raw with
  | .mapping _ entries => compileFields (compileField r limit limit.toNat) path entries
  | _ => reject path .notMapping

end DataShape
