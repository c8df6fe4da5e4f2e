import DataShape.Matching
import DataShape.Registry

/-!
# Validation

Finds every error of a value under a canonical schema. Each declared field is checked and each
failure is reported at its own path; nothing stops at the first one. A field that fails itself gets
a single error, and only a field that passes has its parts checked.

The number of levels that checks of fields may nest bounds the recursion. The height of the schema
always suffices, since each level goes down in the schema.
-/

namespace DataShape

namespace Validation

def required : String := "field is required"

def wrongType : String := "field is not of the correct type"

def unknownProperty : String := "unknown property"

def notAnOption (options : List Value) : String :=
  "field can only be one of: " ++ ", ".intercalate (options.map Value.display)

def emptyObject (path : Value) : String :=
  "object \"" ++ path.filled ++ "\" is required, but left empty"

abbrev Check := Matching.Trial (Except Fault)

/-- The errors of the declared fields, added to the ones before. A field that the value lacks is
checked as missing. -/
def checkFields (check : Check) (entries : Entries) (parent : Value) (errors : ErrorSet) :
    Entries → Except Fault ErrorSet
  | [] => .ok errors
  | (name, field) :: rest => do
    let more ← check ((Entries.get? entries name).getD .missing) field name parent
    checkFields check entries parent (errors.merge more) rest

/-- The errors of keys that are not declared, added to the ones before. -/
def checkKeys (fields : Entries) (parent : Value) (errors : ErrorSet) :
    List Value → Except Fault ErrorSet
  | [] => .ok errors
  | key :: rest => do
    if Entries.contains fields key then checkKeys fields parent errors rest
    else
      key.checkWritable
      let path ← Path.joinValue parent (.text key.display)
      checkKeys fields parent (errors.put path unknownProperty) rest

/-- The errors of a mapping under an object schema. -/
def checkObject (check : Check) (value schema parent : Value) : Except Fault ErrorSet :=
  match value, schema with
  | .mapping _ entries, .mapping _ fields => do
    let errors ← checkFields check entries parent [] fields
    checkKeys fields parent errors (Entries.keys entries)
  | .mapping .., v => .error (.notAsked v "items")
  | v, _ => .error (.notMapping v)

/-- The error of a value that is none of the options of its field, if it has options. -/
def checkOption (value : Value) (field : Entries) (path : Value) :
    Except Fault (Option ErrorSet) :=
  match Entries.option? field "enum" with
  | none | some .null => .ok none
  | some options => do
    if ← value.isIn options then pure none
    else
      let items ← options.walk
      (Value.list items).checkWritable
      pure (some [(path, notAnOption items)])

/-- The tag of a field of a known type. -/
def tagOf (field : Entries) : Except Fault Value :=
  match Entries.option? field "type" with
  | none => .error (.noEntry "type")
  | some tag => .ok tag

/-- The errors of the parts of a value that passes the check of its own field. -/
def checkParts (check : Check) (value : Value) (kind : MappingKind) (field : Entries)
    (path : Value) : Except Fault ErrorSet := do
  let tag := (← tagOf field).text?
  if tag = some Capability.objectTag then
    let isLeftEmpty ←
      if Entries.isOn field "required" then (· == 0) <$> value.length else pure false
    if isLeftEmpty then
      path.checkWritable
      pure [(path, emptyObject path)]
    else checkObject check value ((Entries.option? field "child").getD (.dict [])) path
  else if tag = some Capability.arrayTag then
    Matching.matchArray check value (.mapping kind field) path
  else pure []

/-- The errors of a value that is there, or that is missing and required. -/
def checkValue (check : Check) (c : Capability) (value : Value) (kind : MappingKind)
    (field : Entries) (path : Value) : Except Fault ErrorSet := do
  let isNotGiven ← if Entries.isOn field "required" then c.isEmpty value field else pure false
  if isNotGiven then pure [(path, required)]
  else
    let isAccepted ← c.accepts value field
    if !isAccepted then pure [(path, wrongType)]
    else match ← checkOption value field path with
      | some errors => pure errors
      | none => checkParts check value kind field path

def isMissing : Value → Bool
  | .missing => true
  | _ => false

end Validation

open Validation

/-- The errors of a value under a field, with at most so many levels of fields. -/
def checkWithin (r : Registry) : (levels : Nat) → Check
  | 0, _, _, _, _ => .error .tooManyLevels
  | levels + 1, value, field, name, parent => do
    let path ← Path.joinValue parent name
    match field with
    | .mapping kind options =>
      if isMissing value && !Entries.isOn options "required" then pure []
      else match r.lookup? ((Entries.option? options "type").getD .null) with
        | none => do
          path.checkWritable
          throw (.rejected .unknownType path)
        | some c => checkValue (checkWithin r levels) c value kind options path
    | v => .error (.notAsked v "get")

/-- The errors of a value under a field with a name, below the path of a parent. -/
def validateField (r : Registry) (value field name parent : Value) : Except Fault ErrorSet :=
  checkWithin r field.height value field name parent

/-- The errors of a mapping under an object schema, below the path of a parent. -/
def validateObject (r : Registry) (value schema parent : Value) : Except Fault ErrorSet :=
  checkObject (checkWithin r schema.height) value schema parent

/-- The errors of a sequence under the field of an array at a path. -/
def validateArray (r : Registry) (sequence field path : Value) : Except Fault ErrorSet :=
  Matching.matchArray (checkWithin r field.height) sequence field path

end DataShape
