import DataShape.Number.Complex
import DataShape.Value.Packed

/-!
# Values as text

Two texts of a value: the one that stands inside a larger text, where a text is in quotes and a
class is named, and the plain one, which is the content of a text or a moment itself.
-/

namespace DataShape

open Text TimeUnit

/-- The arguments for a time of day: seconds only where there are some. -/
def Clock.arguments (c : Clock) : List String :=
  [toString c.hour, toString c.minute]
    ++ (if c.microsecond ≠ 0 then [toString c.second, toString c.microsecond]
      else if c.second ≠ 0 then [toString c.second] else [])

/-- A call with arguments. -/
def call (function : String) (arguments : List String) : String :=
  function ++ "(" ++ ", ".intercalate arguments ++ ")"

def Duration.call (d : Duration) : String :=
  DataShape.call "datetime.timedelta" (if d = 0 then ["0"] else Duration.arguments d)

/-- A moment's distance from universal time as an expression. -/
def Offset.expression (o : Offset) : String :=
  if o = 0 then "datetime.timezone.utc" else call "datetime.timezone" [Duration.call o]

def offsetArgument : Option Offset → List String
  | none => []
  | some o => ["tzinfo=" ++ o.expression]

def Date.arguments (d : Date) : List String := [toString d.year, toString d.month, toString d.day]

/-- A stamped moment as a call, with the zone of its offset. -/
def Moment.stampCall (m : Moment) : String :=
  let text := { m with offset := none : Moment }.iso " "
  match m.offset with
  | none => "Timestamp('" ++ text ++ "')"
  | some o =>
    let zone := if o = 0 then "UTC" else "UTC" ++ o.iso
    "Timestamp('" ++ text ++ String.ofList (o.iso.toList.filter (· ≠ ':')) ++ "', tz='" ++ zone
      ++ "')"

/-- The switches of a pattern by name; text of every script goes without saying. -/
def Pattern.Options.names (o : Pattern.Options) (isText : Bool) : List String :=
  let unicode := o.unicode && !(isText && !o.locale && !o.latin)
  [(o.template, "re.TEMPLATE"), (o.ignoreCase, "re.IGNORECASE"), (o.locale, "re.LOCALE"),
    (o.multiline, "re.MULTILINE"), (o.dotAll, "re.DOTALL"), (unicode, "re.UNICODE"),
    (o.verbose, "re.VERBOSE"), (o.debug, "re.DEBUG"), (o.latin, "re.ASCII")].filterMap
      fun (isOn, name) => if isOn then some name else none

def Pattern.Source.quoted : Pattern.Source → String
  | .text s => Text.quoted s
  | .bytes b => quotedBytes b

/-- A pattern as a call; a long source is cut. -/
def Pattern.call (p : Pattern) : String :=
  let source := String.ofList (p.source.quoted.toList.take 200)
  let names := p.options.names p.source.isText
  DataShape.call "re.compile" (source :: if names.isEmpty then [] else ["|".intercalate names])

def boolText (b : Bool) : String := if b then "True" else "False"

def Scalar.display : Scalar → String
  | .int _ n => toString n
  | .float width x => x.render width.format true
  | .bool b => boolText b
  | .text s => s
  | .moment unit count => unit.momentText count
  | .span unit count => toString count ++ " " ++ unit.plural
  | .never .. => "NaT"

/-- A machine scalar inside a larger text. -/
def Scalar.call : Scalar → String
  | .bool b => "np." ++ boolText b
  | .text s => "np.str_(" ++ quoted s ++ ")"
  | .span unit count => "np.timedelta64(" ++ toString count ++ ",'" ++ unit.symbol ++ "')"
  | .never true unit _ => "np.timedelta64('NaT','" ++ unit.symbol ++ "')"
  | .moment .hour count => "np.datetime64('" ++ momentText .hour count ++ "','h')"
  | .never false .hour _ => "np.datetime64('NaT','h')"
  | .moment unit count => "np.datetime64('" ++ unit.momentText count ++ "')"
  | .never false .. => "np.datetime64('NaT')"
  | s => "np." ++ s.name ++ "(" ++ s.display ++ ")"

def braced (parts : List String) : String := "\x7b" ++ ", ".intercalate parts ++ "\x7d"

def bracketed (parts : List String) : String := "[" ++ ", ".intercalate parts ++ "]"

namespace Value

/-- The text of a value without parts, inside a larger text. -/
def leafRepr : Value → String
  | .null => "None"
  | .missing => "MISSING"
  | .bool b => boolText b
  | .int n => toString n
  | .float x => x.display
  | .text s => quoted s
  | .bytes b => quotedBytes b
  | .decimal d => "Decimal('" ++ d.display ++ "')"
  | .complex re im => Complex.display re im
  | .date d => call "datetime.date" d.arguments
  | .time t => call "datetime.time" (t.clock.arguments ++ offsetArgument t.offset)
  | .moment m =>
    call "datetime.datetime" (m.date.arguments ++ m.clock.arguments ++ offsetArgument m.offset)
  | .duration d => Duration.call d
  | .stamp m => m.stampCall
  | .notATime => "NaT"
  | .classObject k => "<class '" ++ k.fullName ++ "'>"
  | .pattern p => p.call
  | .range stop => call "range" ["0", toString stop]
  | .scalar s => s.call
  | _ => ""

/-- The text of a value that denotes its own content. -/
def leafText : Value → String
  | .text s => s
  | .decimal d => d.display
  | .date d => d.iso
  | .time t => t.iso
  | .moment m | .stamp m => m.iso " "
  | .duration d => Duration.text d
  | .scalar s => s.display
  | v => v.leafRepr

/-- A mapping of a kind around the texts of its entries. -/
def mappingRepr (kind : MappingKind) (keys values : List String) : String :=
  let pairs (open_ middle close : String) :=
    (keys.zip values).map fun (k, v) => open_ ++ k ++ middle ++ v ++ close
  let body := braced (pairs "" ": " "")
  match kind with
  | .plain | .wrapped => body
  | .ordered =>
    call "OrderedDict" (if keys.isEmpty then [] else [bracketed (pairs "(" ", " ")")])
  | .view => call "mappingproxy" [body]
  | .chained => call "ChainMap" [body]

mutual

/-- The text of a value inside a larger text. -/
def repr : Value → String
  | .sequence .list items => bracketed (reprs items)
  | .sequence .tuple items =>
    match reprs items with
    | [part] => "(" ++ part ++ ",)"
    | parts => "(" ++ ", ".intercalate parts ++ ")"
  | .set frozen items =>
    let name := if frozen then "frozenset" else "set"
    match reprs items with
    | [] => name ++ "()"
    | parts => if frozen then call name [braced parts] else braced parts
  | .array packing rows =>
    let cell := packing.scalarText false (allElements rows)
    packing.call (.array packing rows) (.rows (grids cell rows))
  | .point packing v =>
    packing.call (.point packing v) (v.grid (packing.scalarText true [v]) v.repr)
  | .mapping kind entries => mappingRepr kind (keyReprs entries) (valueReprs entries)
  | v => v.leafRepr

def reprs : List Value → List String
  | [] => []
  | v :: rest => v.repr :: reprs rest

/-- The grid of an element or a row of a packed array, given the texts of scalars and the text of
the value itself: a list among the elements is marked as one. -/
def grid (cell : Scalar → String) (whole : String) : Value → Grid
  | .array _ rows => .rows (grids cell rows)
  | .scalar s => .cell (cell s)
  | .sequence .list _ => .cell (call "list" [whole])
  | _ => .cell whole

def grids (cell : Scalar → String) : List Value → List Grid
  | [] => []
  | v :: rest => v.grid cell v.repr :: grids cell rest

def keyReprs : List (Value × Value) → List String
  | [] => []
  | (k, _) :: rest => k.repr :: keyReprs rest

def valueReprs : List (Value × Value) → List String
  | [] => []
  | (_, v) :: rest => v.repr :: valueReprs rest

end

/-- The plain text of a value. -/
def display : Value → String
  | .array packing rows =>
    let elements := allElements rows
    if elements.isEmpty then "[]"
    else (Grid.rows (grids (packing.scalarText false elements) rows)).text
  | .point _ v => v.display
  | v@(.sequence ..) | v@(.set ..) | v@(.mapping ..) => v.repr
  | v => v.leafText

/-- The text of a value that is filled into a message: machine floating-point numbers appear in
double precision. -/
def filled : Value → String
  | .scalar (.float _ x) | .point _ (.scalar (.float _ x)) => x.display
  | v => v.display

mutual

/-- Whether every integer in a value is short enough to be written. -/
def isWritable : Value → Bool
  | .int n | .range n => !isTooLong n
  | .sequence _ items | .set _ items | .array _ items => areWritable items
  | .point _ v => v.isWritable
  | .mapping _ entries => entriesAreWritable entries
  | _ => true

def areWritable : List Value → Bool
  | [] => true
  | v :: rest => v.isWritable && areWritable rest

def entriesAreWritable : List (Value × Value) → Bool
  | [] => true
  | (k, v) :: rest => k.isWritable && v.isWritable && entriesAreWritable rest

end

end Value

end DataShape
