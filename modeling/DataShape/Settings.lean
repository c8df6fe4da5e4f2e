import DataShape.Document
import DataShape.Schema

/-!
# Settings

The settings of the library and where they come from. At most one file is consulted: the one that is
named by the caller, else the one that the environment names, else the one in the working folder.
Its failure is never made up for by another source. A depth in the environment replaces that of the
file.
-/

namespace DataShape

structure Settings where
  /-- The nesting depth of schemas that is accepted. -/
  maxDepth : Int := defaultDepth

namespace Settings

/-! ## The depth -/

/-- Why a value is no nesting depth. -/
inductive DepthIssue where
  /-- A value that stands for no number. -/
  | notInteger
  /-- A text that writes no integer. -/
  | unreadable
  | tooLarge
  | fractional
  | notFinite
  | tooSmall
deriving DecidableEq

open Text

/-- A sign and digits without superfluous zeros. -/
def plainInteger? (cs : List Char) : Option Int :=
  let (negative, digits) := match cs with
    | '-' :: rest => (true, rest)
    | _ => (false, cs)
  if digits = ['0'] ∨ (digits.all isLatinDigit ∧ digits.head?.any (· ≠ '0')) then
    let n : Int := readBase 10 digits
    some (if negative then -n else n)
  else none

/-- The digits after leading zeros, among which underscores may stand. One zero stays before a point
and where nothing follows. -/
def dropZeros? (previous : Char) : List Char → Option (List Char)
  | [] => some [previous]
  | c :: rest =>
    if c = '0' ∨ c = '_' then dropZeros? c rest
    else if c = '.' then some (previous :: c :: rest)
    else if isLatinDigit c then some (c :: rest)
    else none

/-- A numeral without leading zeros; one with a minus sign is left as it is. -/
def dropLeading? : List Char → Option (List Char)
  | [] => none
  | c :: rest =>
    if c = '0' then dropZeros? c rest
    else if isLatinDigit c ∨ c = '-' then some (c :: rest)
    else none

/-- A numeral without a fraction of zeros. -/
def dropFraction (cs : List Char) : List Char :=
  let whole := cs.takeWhile (· ≠ '.')
  let fraction := (cs.dropWhile (· ≠ '.')).drop 1
  if fraction.all (· = '0') then whole else cs

/-- Whether a character stands twice in a row. -/
def isDoubled (c : Char) : List Char → Bool
  | a :: b :: rest => (a = c && b = c) || isDoubled c (b :: rest)
  | _ => false

/-- A numeral without underscores, each of which must stand alone inside it. -/
def dropUnderscores (cs : List Char) : List Char :=
  if cs.head? = some '_' || cs.getLast? = some '_' || isDoubled '_' cs then cs
  else cs.filter (· ≠ '_')

/-- The integer that a text writes: with a sign, zeros in front, single underscores, a fraction of
zeros and white space around. -/
def readDepth? (text : List Char) : Option Int := do
  let cs ← match trimSpace text with
    | '+' :: '-' :: _ => none
    | '+' :: rest => some rest
    | cs => some cs
  let cs ← dropLeading? cs
  plainInteger? (dropUnderscores (dropFraction cs))

def depthOfText (text : List Char) : Except DepthIssue Int :=
  match plainInteger? text with
  | some n => if digitLimit < text.length then .error .tooLarge else .ok n
  | none => match readDepth? text with
    | some n => .ok n
    | none => .error .unreadable

def depthOfRat (q : Rat) : Except DepthIssue Int :=
  if q.den = 1 then .ok q.num else .error .fractional

/-- A floating-point number as a depth, which must fit into 64 bits. -/
def depthOfFloat (x : Floating) : Except DepthIssue Int :=
  match x.toRat? with
  | none => .error .notFinite
  | some q => do
    let n ← depthOfRat q
    if n.natAbs < Nat.pow 2 63 then pure n else throw .tooLarge

/-- The integer that a value stands for. -/
def integerOf : Value → Except DepthIssue Int
  | .int n => .ok n
  | .bool b | .scalar (.bool b) => .ok b.toNat
  | .text s | .scalar (.text s) => depthOfText s.toList
  | .bytes b =>
    match String.fromUTF8? (ByteArray.mk b.toArray) with
    | some s => depthOfText s.toList
    | none => .error .unreadable
  | .decimal d =>
    match d.toRat? with
    | some q => depthOfRat q
    | none => .error .notFinite
  | .float x | .scalar (.float _ x) => depthOfFloat x
  | .scalar (.int _ n) => depthOfFloat (Floating.Format.double.ofRat n)
  | .point _ v => match v with
    | .scalar (.text s) => match Floating.read? s with
      | some x => depthOfFloat x
      | none => .error .notInteger
    | .scalar _ | .int _ | .bool _ | .float _ => integerOf v
    | _ => .error .notInteger
  | _ => .error .notInteger

/-! ## Reading -/

/-- What settings are read with: the YAML reader and what is asked of its values, and the integers
that values stand for. The values may be of any form; only the keys of mappings are values here. -/
structure Reader (Node : Type) where
  read : List Char → Except Yaml.Problem Node
  isTrue : Node → Bool
  entries? : Node → Option (List (Value × Node))
  /-- A text from the environment. -/
  ofText : String → Node
  integer : Node → Except DepthIssue Int

/-- The entries of a plain mapping. -/
def entriesOf? : Value → Option Entries
  | .mapping .plain entries => some entries
  | _ => none

/-- The reader of the program. -/
def reader : Reader Value where
  read := Yaml.read
  isTrue := Value.isTrue
  entries? := entriesOf?
  ofText := .text
  integer := integerOf

section

variable {Node : Type} (reader : Reader Node)

/-- The depth that a value stands for. -/
def depthOf (v : Node) : Except DepthIssue Int := do
  let n ← reader.integer v
  if n < 1 then throw .tooSmall
  pure n

/-! ## The options -/

/-- What is wrong with options. -/
inductive Issue where
  | depth (issue : DepthIssue)
  | unknown (name : String)
  /-- A key that is no text. -/
  | badKey (key : Value)

/-- The name of the depth among options. -/
def depthKey : String := "max_depth"

def issueOfKey (key : Value) : Option Issue :=
  match key.text? with
  | some name => if name = depthKey then none else some (.unknown name)
  | none => some (.badKey key)

/-- Settings from options: all issues, that of the depth first. -/
def ofOptions (options : List (Value × Node)) : Except (List Issue) Settings :=
  let others := (Entries.keys options).filterMap issueOfKey
  match Entries.option? options depthKey with
  | none => if others.isEmpty then .ok {} else .error others
  | some v =>
    match depthOf reader v with
    | .error issue => .error (.depth issue :: others)
    | .ok n => if others.isEmpty then .ok ⟨n⟩ else .error others

/-! ## The sources -/

inductive Problem where
  | missing (path : String)
  | folder (path : String)
  | unreadable (path : String)
  | yaml (problem : Yaml.Problem)
  | notMapping (path : String)
  | sectionNotMapping (path : String)
  | invalid (issues : List Issue)
  /-- A depth that is too long to be told. -/
  | tooLong

def Problem.message : Problem → String
  | .missing path => "Config file not found at " ++ path
  | .folder path => "[Errno 21] Is a directory: " ++ quoted path
  | .unreadable path => "Failed to parse YAML config file " ++ path
  | .yaml problem => problem.message
  | .notMapping path => "Config file " ++ path ++ " must contain a mapping"
  | .sectionNotMapping path => "The 'fieldcheck' section of " ++ path ++ " must be a mapping"
  | .invalid _ => "Invalid fieldcheck settings"
  | .tooLong => integerTooLong

def Problem.kind : Problem → FailureKind
  | .missing _ => .missingFile
  | .folder _ => .folder
  | .yaml problem => problem.kind
  | _ => .value

/-- The variable that names a settings file. -/
def fileVariable : String := "FIELDCHECK_CONFIG"

/-- The variable that sets the depth. -/
def depthVariable : String := "FIELDCHECK_MAX_DEPTH"

/-- The settings file of the working folder. -/
def defaultFile : String := "fieldcheck.yaml"

/-- The section of a settings file that holds the settings. -/
def sectionKey : String := "fieldcheck"

/-- The file that is consulted, if there is one. -/
def source? (files : Files) (env : Environment) (path? : Option String) : Option String :=
  match path?, env.value? fileVariable with
  | some path, _ => some path
  | none, some path => some path
  | none, none => if (files defaultFile).isSome then some defaultFile else none

/-- The document of a settings file. -/
def readDocument (files : Files) (path : String) : Except Problem Node :=
  let path := FilePath.normal path
  match files path with
  | none => .error (.missing path)
  | some .folder => .error (.folder path)
  | some (.file content) =>
    (reader.read (Files.unifyLines content.toList)).mapError fun problem =>
      match problem with
      | .malformed => .unreadable path
      | problem => .yaml problem

/-- The options in a document. A document or a section that counts as false holds none. -/
def optionsOf (path : String) (document : Node) : Except Problem (List (Value × Node)) :=
  if !reader.isTrue document then .ok []
  else match reader.entries? document with
    | some entries =>
      match Entries.option? entries sectionKey with
      | none => .ok []
      | some v =>
        if !reader.isTrue v then .ok []
        else match reader.entries? v with
          | some options => .ok options
          | none => .error (.sectionNotMapping path)
    | none => .error (.notMapping path)

/-- The options of the consulted file. -/
def fileOptions (files : Files) (env : Environment) (path? : Option String) :
    Except Problem (List (Value × Node)) :=
  match source? files env path? with
  | none => .ok []
  | some path => readDocument reader files path >>= optionsOf reader (FilePath.normal path)

/-- The settings that hold for a caller who names a settings file or none. They are told in a note,
which a depth that is too long does not allow. -/
def loadWith (files : Files) (env : Environment) (path? : Option String) :
    Except Problem Settings := do
  let options ← fileOptions reader files env path?
  let options := match env.value? depthVariable with
    | some depth => Entries.setOption options depthKey (reader.ofText depth)
    | none => options
  let settings ← (ofOptions reader options).mapError .invalid
  if isTooLong settings.maxDepth then throw .tooLong
  pure settings

end

/-- The settings that the program loads. -/
def load : (files : Files) → (env : Environment) → (path? : Option String) →
    Except Problem Settings :=
  loadWith reader

end Settings

end DataShape
