import DataShape.Calendar.Recognition
import DataShape.Capability

/-!
# The built-in types

Texts, numbers, truth values, dates, objects and arrays. Each fits a class of values whatever their
form, machine scalars and packed arrays among them; truth values are never numbers or dates.
-/

namespace DataShape.Capability

/-- The pattern of a `test` option searched in a text. -/
def passesTest (test : Value) (s : String) : Except Fault Bool :=
  match test with
  | .null => .ok true
  | .pattern p => if p.source.isText then .ok (p.occursIn s) else .error .bytesPattern
  | v => match v.text? with
    | none => .ok false
    | some source =>
      match Pattern.read (.text source) with
      | .ok p => .ok (p.occursIn s)
      | .error complaint => .error (.badPattern source.toList complaint)

/-- Keeps the `test` option of a field as a pattern. -/
def compileTest (field : Entries) (path : Option String) : Except Fault Entries :=
  match Entries.option? field "test" with
  | none | some (.pattern _) => .ok field
  | some v => match v.text? with
    | none => .error (.rejected .testNotPattern (Path.toValue path))
    | some source =>
      match Pattern.read (.text source) with
      | .ok p => .ok (Entries.setOption field "test" (.pattern p))
      | .error (.fault cause position) =>
        let complaint := Pattern.Complaint.message source.toList (.fault cause position)
        .error (.rejected (.badTest complaint) (Path.toValue path))
      | .error complaint => .error (.badPattern source.toList complaint)

/-- Texts, which a pattern may narrow down. -/
def string : Capability where
  label := "StringType"
  name := "string"
  aliases := [.classObject .text]
  properties := ["required", "enum", "test"]
  accepts v field :=
    match v.text? with
    | none => .ok false
    | some s => passesTest ((Entries.option? field "test").getD .null) s
  checkField := compileTest
  isEmpty v _ :=
    .ok (match v with
      | .missing | .null => true
      | v => v.text? == some "")

/-- Whether a value is a number of a numeric class and not a truth value. Machine spans are integers
of such a class, those that are none among them. -/
def isNumber : Value → Bool
  | .int _ | .scalar (.int ..) | .scalar (.span ..) | .scalar (.never true ..) => true
  | .float x | .scalar (.float _ x) => !x.isNan
  | _ => false

/-- Numbers, and texts that denote one where the field asks for that. -/
def number : Capability where
  label := "NumberType"
  name := "number"
  aliases := [.classObject .int, .classObject .float]
  properties := ["required", "enum", "coerce"]
  accepts v field :=
    .ok (match Entries.isOn field "coerce", v.text? with
      | true, some s => (Floating.read? s).any fun x => !x.isNan
      | _, _ => isNumber v)
  checkField field path :=
    match Entries.option? field "coerce" with
    | none | some (.bool _) => .ok field
    | some _ => .error (.rejected (.notBoolean "coerce") (Path.toValue path))

def boolean : Capability where
  label := "BooleanType"
  name := "boolean"
  aliases := [.classObject .bool]
  properties := ["required", "enum"]
  accepts v _ := .ok v.isBool

/-- Whether so many seconds from the start of 1970 are a moment of the calendar. -/
def isUnixTime (x : Floating) : Bool :=
  x.toRat?.any fun q => Moment.isReachable (Moment.wholeSecond q)

/-- Whether a value denotes a point in time. -/
def isDate : Value → Bool
  | .date _ | .moment _ | .stamp _ => true
  | .int n | .scalar (.int _ n) => isUnixTime (Floating.Format.double.ofRat n)
  | .float x | .scalar (.float _ x) => isUnixTime x
  | .scalar (.span unit count) =>
    match Scalar.item (.span unit count) with
    | .int n => isUnixTime (Floating.Format.double.ofRat n)
    | _ => false
  | v => v.text?.any Calendar.isDateText

/-- The fault of a machine span that is asked for seconds and has a duration or nothing to give. -/
def noSeconds? : Value → Option Fault
  | .scalar s@(.span ..) | .scalar s@(.never true ..) =>
    match s.item with
    | .int _ => none
    | v => some (.noFloat v)
  | _ => none

/-- Days and moments, seconds since the start of 1970, and texts that are read as a date. -/
def date : Capability where
  label := "DateType"
  name := "date"
  aliases := [.classObject .moment, .classObject .date]
  properties := ["required"]
  accepts v _ :=
    match noSeconds? v with
    | some fault => .error fault
    | none => .ok (isDate v)

/-- The tag of fields that hold further fields. -/
def objectTag : String := "object"

/-- The tag of fields that hold elements. -/
def arrayTag : String := "array"

def object : Capability where
  label := "ObjectType"
  name := objectTag
  aliases := [.classObject .mapping]
  properties := ["required", "child"]
  accepts v _ := .ok v.isMapping

/-- Whether a value is walked through element by element. -/
def isSequence : Value → Bool
  | .sequence .. | .array .. | .point .. => true
  | _ => false

def array : Capability where
  label := "ArrayType"
  name := arrayTag
  aliases := [.classObject .list]
  properties := ["required", "child"]
  accepts v _ := .ok (isSequence v)

/-- The built-in types in the order in which they are registered. -/
def builtins : List Capability := [string, number, boolean, date, object, array]

end DataShape.Capability
