import DataShape.ErrorSet
import DataShape.Failure
import DataShape.Path
import DataShape.Value.Display

/-!
# Faults

Why a call gives no result. A malformed schema is rejected with the first defect found and the path
of the field that has it; the other faults are misuses of values: a length asked of something
without one, a key that cannot be one, a search in the wrong kind of text.
-/

namespace DataShape

/-- What is wrong with a schema. -/
inductive Defect where
  | notMapping
  | tooDeep (limit : Int)
  | unknownType
  | childNotMapping
  | childNotList
  /-- A property that fields of the type do not have; it is given by its full path. -/
  | unknownProperty (property : String)
  | notBoolean (property : String)
  | notInteger (property : String)
  | testNotPattern
  | badTest (complaint : String)
  | enumNotList
  | enumMismatch (index : Nat)

/-- The path as it is filled into a message, where no path is an empty text. -/
def Path.shown (path : Value) : String := if path.isTrue then path.filled else ""

/-- The path of a property of the field at a path. -/
def Path.property (path : Value) (name : String) : String :=
  if path.isTrue then path.filled ++ separator name ++ name else name

def Defect.message (path : Value) : Defect → String
  | .notMapping => "Schema must be a mapping"
  | .tooDeep limit =>
    "Schema nesting exceeds the maximum depth of " ++ toString limit ++ " at \"" ++ Path.shown path
      ++ "\""
  | .unknownType => "Invalid type for the field \"" ++ Path.shown path ++ "\""
  | .childNotMapping => "The prop \"" ++ Path.property path "child" ++ "\" should be a mapping"
  | .childNotList => "The prop \"" ++ Path.property path "child" ++ "\" should be a list"
  | .unknownProperty property => "Unknown property \"" ++ property ++ "\""
  | .notBoolean name => "The prop \"" ++ Path.property path name ++ "\" should be a boolean"
  | .notInteger name => "The prop \"" ++ Path.property path name ++ "\" should be an integer"
  | .testNotPattern =>
    "The \"test\" option in the field \"" ++ Path.shown path ++ "\" should be a regular expression"
  | .badTest complaint =>
    "The \"test\" option in the field \"" ++ Path.shown path
      ++ "\" is not a valid regular expression: " ++ complaint
  | .enumNotList => "The prop \"" ++ Path.property path "enum" ++ "\" should be a list"
  | .enumMismatch i =>
    "The enum at \"" ++ Path.property path "enum" ++ Path.index i
      ++ "\" doesn't match the schema type"

inductive Fault where
  /-- A malformed schema, with the path of the field at fault. -/
  | rejected (defect : Defect) (path : Value)
  /-- A value that does not match its schema. -/
  | invalid (errors : ErrorSet)
  | noMember (owner : Value) (name : String)
  | noEntry (key : String)
  /-- Bytes where the front of a text is compared. -/
  | bytesForText
  /-- A class of texts or of bytes where the front of a text is compared. -/
  | classForText (isBytes : Bool)
  /-- The class of mappings where a mapping is asked for an entry or for all. -/
  | classForMapping (name : String)
  | notMapping (v : Value)
  | notSequence (v : Value)
  | noArraySchema
  | noLength (v : Value)
  | pointLength
  | pointRows
  | notIterable (v : Value)
  | notSearchable (v : Value)
  | notInText (v : Value)
  | notInBytes (v : Value)
  | ambiguousTruth (isEmpty : Bool)
  | unhashable (reason : Unhashable)
  /-- A machine span where a floating-point number is asked for, by its plain value. -/
  | noFloat (item : Value)
  | badTag (tag : Value)
  | notCapability (tag : String) (v : Value)
  /-- A key that cannot name a member of a JSON object. -/
  | badName (key : Value)
  /-- An integer that is too long to be written. -/
  | integerTooLong
  | bytesPattern
  /-- More nested checks than were allowed for. -/
  | tooManyLevels
  | badPattern (source : List Char) (complaint : Pattern.Complaint)

/-- Refuses a value whose text is asked for and that holds an integer too long to be written. -/
def Value.checkWritable (v : Value) : Except Fault Unit :=
  if v.isWritable then .ok () else .error .integerTooLong

/-- How a message names the class of a value. -/
def Value.owner : Value → String
  | .classObject k => "type object '" ++ k.fullName ++ "'"
  | v => "'" ++ v.fullClassName ++ "' object"

/-- The message of a report of errors: a line for each path. -/
def ErrorSet.report (errors : ErrorSet) : String :=
  if errors.isEmpty then "Validation failed"
  else
    "Validation failed:\n  "
      ++ "\n  ".intercalate (errors.map fun e => e.1.filled ++ ": " ++ e.2)

def Fault.message : Fault → String
  | .rejected defect path => defect.message path
  | .invalid errors => errors.report
  | .noMember v name => v.owner ++ " has no attribute '" ++ name ++ "'"
  | .noEntry key => Text.quoted key
  | .bytesForText => "startswith first arg must be bytes or a tuple of bytes, not str"
  | .classForText isBytes =>
    if isBytes then "descriptor 'startswith' for 'bytes' objects doesn't apply to a 'str' object"
    else "startswith() takes at least 1 argument (0 given)"
  | .classForMapping name =>
    if name = "get" then "descriptor 'get' for 'dict' objects doesn't apply to a 'str' object"
    else "unbound method dict." ++ name ++ "() needs an argument"
  | .notMapping v =>
    "Object validator needs the first argument to be a mapping, instead received " ++ v.className
  | .notSequence v =>
    "Array validator needs the first argument to be an array, instead received \"" ++ v.filled
      ++ "\""
  | .noArraySchema =>
    "Array validator needs the second argument to be the array schema, instead received \"None\""
  | .noLength v => "object of type '" ++ v.fullClassName ++ "' has no len()"
  | .pointLength => "len() of unsized object"
  | .pointRows => "iteration over a 0-d array"
  | .notIterable v => "'" ++ v.fullClassName ++ "' object is not iterable"
  | .notSearchable v => "argument of type '" ++ v.fullClassName ++ "' is not iterable"
  | .notInText v => "'in <string>' requires string as left operand, not " ++ v.fullClassName
  | .notInBytes v => "a bytes-like object is required, not '" ++ v.fullClassName ++ "'"
  | .ambiguousTruth isEmpty =>
    if isEmpty then
      "The truth value of an empty array is ambiguous. Use `array.size > 0` to check that an array "
        ++ "is not empty."
    else
      "The truth value of an array with more than one element is ambiguous. "
        ++ "Use a.any() or a.all()"
  | .unhashable reason => reason.message
  | .noFloat v =>
    "float() argument must be a string or a real number, not '" ++ v.fullClassName ++ "'"
  | .badTag tag => "Type tag must be a non-empty string, got " ++ tag.repr
  | .notCapability tag v =>
    "Type " ++ Text.quoted tag ++ " must be a FieldType instance, got " ++ v.className
  | .badName key =>
    "keys must be str, int, float, bool or None, not " ++ key.className
  | .integerTooLong => Text.integerTooLong
  | .bytesPattern => "cannot use a bytes pattern on a string-like object"
  | .tooManyLevels => "checks nest too deeply"
  | .badPattern source complaint => complaint.message source

/-- The kind of a defect of a pattern. -/
def Pattern.Complaint.kind : Pattern.Complaint → FailureKind
  | .fault .. => .pattern
  | .repetitionTooLarge => .overflow
  | _ => .value

def Fault.kind : Fault → FailureKind
  | .rejected .. => .schema
  | .invalid _ => .mismatch
  | .noMember .. => .member
  | .noEntry _ => .entry
  | .ambiguousTruth _ | .integerTooLong => .value
  | .badPattern _ complaint => complaint.kind
  | .tooManyLevels => .levels
  | _ => .type

/-- The fault of a value that is asked as if it were a mapping. -/
def Fault.notAsked (v : Value) (name : String) : Fault :=
  match v with
  | .classObject .mapping => .classForMapping name
  | v => .noMember v name

/-- The path of a part named by a value. A name below another must be a text. -/
def Path.joinValue (parent name : Value) : Except Fault Value :=
  if !parent.isTrue then .ok name
  else match name.text?, name with
    | some s, _ => do
      parent.checkWritable
      pure (.text (parent.filled ++ separator s ++ s))
    | none, .bytes _ => .error .bytesForText
    | none, .classObject .text => .error (.classForText false)
    | none, .classObject .bytes => .error (.classForText true)
    | none, _ => .error (.noMember name "startswith")

end DataShape
