import DataShape.Calendar.MachineTime
import DataShape.Number.Decimal
import DataShape.Pattern

/-!
# Values

The data that schemas are written in and that schemas describe. Sequences, sets and mappings come in
several kinds with one content; machine scalars and packed arrays carry the width of their elements.
`missing` marks what an object does not hold, and is a value of its own, apart from `null`.
-/

namespace DataShape

/-- A class of values, which is a value itself: schemas name types by it. -/
inductive Kind where
  | text
  | int
  | float
  | bool
  | mapping
  | list
  | tuple
  | set
  | bytes
  | moment
  | date
  | any
  | complex
  | null
deriving DecidableEq, Inhabited

inductive IntWidth where
  | int8
  | int16
  | int32
  | int64
  | uint8
  | uint16
  | uint32
  | uint64
deriving DecidableEq

inductive FloatWidth where
  | float16
  | float32
  | float64
deriving DecidableEq

def FloatWidth.format : FloatWidth → Floating.Format
  | .float16 => .half
  | .float32 => .single
  | .float64 => .double

/-- A scalar of fixed width, such as an element of a packed array. -/
inductive Scalar where
  | int (width : IntWidth) (n : Int)
  | float (width : FloatWidth) (x : Floating)
  | bool (b : Bool)
  | text (s : String)
  /-- The moment so many units after the start of 1970. -/
  | moment (unit : TimeUnit) (count : Int)
  | span (unit : TimeUnit) (count : Int)
  /-- A moment or a span that is none. It is equal to nothing, and a container holds it only as the
  same object, which the number tells from others. -/
  | never (isSpan : Bool) (unit : TimeUnit) (object : Nat)
deriving DecidableEq

/-- What the elements of a packed array are. -/
inductive Packing where
  | int (width : IntWidth)
  | float (width : FloatWidth)
  | bool
  | text
  | moment (unit : TimeUnit)
  | span (unit : TimeUnit)
  | any
deriving DecidableEq

inductive SequenceKind where
  | list
  | tuple
deriving DecidableEq

inductive MappingKind where
  | plain
  | ordered
  | view
  | wrapped
  | chained
deriving DecidableEq

inductive Value where
  | null
  | missing
  | bool (b : Bool)
  | int (n : Int)
  | float (x : Floating)
  | text (s : String)
  | bytes (b : List UInt8)
  | decimal (d : Decimal)
  | complex (re im : Floating)
  | date (d : Date)
  | time (t : TimeOfDay)
  | moment (m : Moment)
  | duration (d : Duration)
  /-- A moment with nanoseconds. -/
  | stamp (m : Moment)
  | notATime
  | classObject (k : Kind)
  | pattern (p : Pattern)
  /-- The integers from zero up to a bound. -/
  | range (stop : Int)
  | scalar (s : Scalar)
  | sequence (kind : SequenceKind) (items : List Value)
  | set (frozen : Bool) (items : List Value)
  /-- An array of at least one dimension, given by its rows. -/
  | array (packing : Packing) (rows : List Value)
  /-- An array of no dimension, which holds one element and no rows. -/
  | point (packing : Packing) (element : Value)
  | mapping (kind : MappingKind) (entries : List (Value × Value))
deriving Inhabited

/-- Keys with values, in order. -/
abbrev Entries := List (Value × Value)

namespace Value

/-- A plain mapping. -/
abbrev dict (entries : Entries) : Value := .mapping .plain entries

abbrev list (items : List Value) : Value := .sequence .list items

/-- The characters of a text, machine scalars included. -/
def text? : Value → Option String
  | .text s | .scalar (.text s) => some s
  | _ => none

def entries? : Value → Option Entries
  | .mapping _ entries => some entries
  | _ => none

def isMapping (v : Value) : Bool := v.entries?.isSome

/-- The items of a list or tuple. -/
def items? : Value → Option (List Value)
  | .sequence _ items => some items
  | _ => none

/-- Whether the value is a truth value, machine scalars included. -/
def isBool : Value → Bool
  | .bool _ | .scalar (.bool _) => true
  | _ => false

/-- Whether the value counts as true in a condition: neither nothing, nor zero, nor empty. -/
def isTrue : Value → Bool
  | .null | .missing => false
  | .bool b | .scalar (.bool b) => b
  | .int n | .scalar (.int _ n) => n ≠ 0
  | .float x | .scalar (.float _ x) => !x.isZero
  | .text s | .scalar (.text s) => !s.isEmpty
  | .bytes b => !b.isEmpty
  | .decimal (.finite _ digits _) => digits ≠ 0
  | .duration d => d ≠ 0
  | .scalar (.moment _ count) | .scalar (.span _ count) => count ≠ 0
  | .complex re im => !(re.isZero && im.isZero)
  | .range stop => 0 < stop
  | .sequence _ items | .set _ items | .array _ items => !items.isEmpty
  | .mapping _ entries => !entries.isEmpty
  | .point _ v => v.isTrue
  | _ => true

end Value

def Kind.name : Kind → String
  | .text => "str"
  | .int => "int"
  | .float => "float"
  | .bool => "bool"
  | .mapping => "dict"
  | .list => "list"
  | .tuple => "tuple"
  | .set => "set"
  | .bytes => "bytes"
  | .moment => "datetime"
  | .date => "date"
  | .any => "object"
  | .complex => "complex"
  | .null => "NoneType"

/-- The name of a class with the module that defines it. -/
def Kind.fullName : Kind → String
  | .moment => "datetime.datetime"
  | .date => "datetime.date"
  | k => k.name

def IntWidth.name : IntWidth → String
  | .int8 => "int8"
  | .int16 => "int16"
  | .int32 => "int32"
  | .int64 => "int64"
  | .uint8 => "uint8"
  | .uint16 => "uint16"
  | .uint32 => "uint32"
  | .uint64 => "uint64"

def FloatWidth.name : FloatWidth → String
  | .float16 => "float16"
  | .float32 => "float32"
  | .float64 => "float64"

def Scalar.name : Scalar → String
  | .int width _ => width.name
  | .float width _ => width.name
  | .bool _ => "bool"
  | .text _ => "str_"
  | .moment .. | .never false .. => "datetime64"
  | .span .. | .never true .. => "timedelta64"

def MappingKind.name : MappingKind → String
  | .plain => "dict"
  | .ordered => "OrderedDict"
  | .view => "mappingproxy"
  | .wrapped => "UserDict"
  | .chained => "ChainMap"

namespace Value

/-- The name of the class of a value. -/
def className : Value → String
  | .null => "NoneType"
  | .missing => "_Missing"
  | .bool _ => "bool"
  | .int _ => "int"
  | .float _ => "float"
  | .text _ => "str"
  | .bytes _ => "bytes"
  | .decimal _ => "Decimal"
  | .complex .. => "complex"
  | .date _ => "date"
  | .time _ => "time"
  | .moment _ => "datetime"
  | .duration _ => "timedelta"
  | .stamp _ => "Timestamp"
  | .notATime => "NaTType"
  | .classObject _ => "type"
  | .pattern _ => "Pattern"
  | .range _ => "range"
  | .scalar s => s.name
  | .sequence .list _ => "list"
  | .sequence .tuple _ => "tuple"
  | .set frozen _ => if frozen then "frozenset" else "set"
  | .array .. | .point .. => "ndarray"
  | .mapping kind _ => kind.name

/-- The name of the class of a value with the module that defines it. -/
def fullClassName : Value → String
  | .decimal _ => "decimal.Decimal"
  | .date _ => "datetime.date"
  | .time _ => "datetime.time"
  | .moment _ => "datetime.datetime"
  | .duration _ => "datetime.timedelta"
  | .pattern _ => "re.Pattern"
  | .scalar s => "numpy." ++ s.name
  | .array .. | .point .. => "numpy.ndarray"
  | .mapping .ordered _ => "collections.OrderedDict"
  | v => v.className

end Value

/-- Why a value cannot serve as a key. -/
inductive Unhashable where
  | ofClass (name : String)
  /-- A decimal number that signals where it is used. -/
  | signalling
deriving DecidableEq

def Unhashable.message : Unhashable → String
  | .ofClass name => "unhashable type: '" ++ name ++ "'"
  | .signalling => "Cannot hash a signaling NaN value"

namespace Value

mutual

/-- Why the first part of a value that cannot serve as a key cannot. -/
def unhashable? : Value → Option Unhashable
  | .sequence .tuple items => anyUnhashable? items
  | .sequence .list _ => some (.ofClass "list")
  | .set frozen _ => if frozen then none else some (.ofClass "set")
  | .array .. | .point .. => some (.ofClass "numpy.ndarray")
  | .mapping .ordered _ => some (.ofClass "collections.OrderedDict")
  | .mapping kind _ => some (.ofClass kind.name)
  | .decimal (.nan _ true _) => some .signalling
  | _ => none

def anyUnhashable? : List Value → Option Unhashable
  | [] => none
  | v :: rest => v.unhashable?.or (anyUnhashable? rest)

end

def isHashable (v : Value) : Bool := v.unhashable?.isNone

mutual

/-- The levels of a value: one for a value without parts, one more than the highest part else. -/
def height : Value → Nat
  | .sequence _ items | .set _ items | .array _ items => maxHeight items + 1
  | .point _ v => v.height + 1
  | .mapping _ entries => maxEntryHeight entries + 1
  | _ => 1

def maxHeight : List Value → Nat
  | [] => 0
  | v :: rest => max v.height (maxHeight rest)

def maxEntryHeight : List (Value × Value) → Nat
  | [] => 0
  | (k, v) :: rest => max (max k.height v.height) (maxEntryHeight rest)

end

end Value

end DataShape
