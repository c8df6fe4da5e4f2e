import DataShape.Command.Arguments
import DataShape.Json.Printer
import DataShape.Settings
import DataShape.Text.Controls

/-!
# The program

`check` validates a document against a schema, and `compile` prints the canonical form of a schema
as JSON. A run is a function of the arguments, the files and the environment: what is printed, what
is logged, and how the program ends. It ends with 0 for success, with 1 for a document that does not
match, and with 2 for anything that cannot be read; a failure of another kind leaves the program.
-/

namespace DataShape.Command

/-- What can fail in a run. -/
inductive Failure where
  | document (problem : Document.Problem)
  | settings (problem : Settings.Problem)
  | fault (f : Fault)

namespace Failure

def message : Failure → String
  | .document problem => problem.message
  | .settings problem => problem.message
  | .fault f => f.message

def kind : Failure → FailureKind
  | .document problem => problem.kind
  | .settings problem => problem.kind
  | .fault f => f.kind

end Failure

inductive Ending where
  | exit (code : Nat)
  | crash (failure : Failure)

/-- Text as it is printed where no terminal reads it: without the sequences that steer one. -/
def echoed (s : String) : String := String.ofList (Text.withoutControls s.toList)

structure Outcome where
  output : String := ""
  log : String := ""
  ending : Ending

/-- Whether a variable switches something on; one that is empty or not set leaves the default. -/
def isSwitchedOn (value? : Option String) (default : Bool) : Bool :=
  match value? with
  | none => default
  | some value =>
    if value.isEmpty then default
    else ["1", "true", "yes"].contains (String.ofList (Text.lowerText value.toList))

/-- The variable that asks for notes on the run. -/
def debugVariable : String := "FIELDCHECK_DEBUG"

/-! ## Notes on a run -/

inductive Note where
  | loadingSettings (path : String)
  | emptySettings
  | loadedSettings (depth : Int)
  | compiled (fields : Nat)
  | validated (errors : Nat)

def Note.line : Note → String
  | .loadingSettings path => "DEBUG:fieldcheck.config:Loading settings from: " ++ path ++ "\n"
  | .emptySettings => "INFO:fieldcheck.config:Empty config file, using default settings\n"
  | .loadedSettings depth =>
    "DEBUG:fieldcheck.config:Loaded settings: max_depth=" ++ toString depth ++ "\n"
  | .compiled fields =>
    "DEBUG:fieldcheck.compiler:Compiled schema with " ++ toString fields ++ " top-level fields\n"
  | .validated errors =>
    "DEBUG:fieldcheck.schema:Validation found " ++ toString errors ++ " error(s)\n"

/-- The notes on reading a settings file. -/
def fileNotes (files : Files) (path : String) : List Note :=
  let path := FilePath.normal path
  if (files path).isNone then []
  else
    let empty := match Settings.readDocument Settings.reader files path with
      | .ok document => !document.isTrue
      | .error _ => false
    .loadingSettings path :: if empty then [.emptySettings] else []

/-- The notes on finding the settings. -/
def settingsNotes (files : Files) (env : Environment) (path? : Option String) : List Note :=
  let reading := match Settings.source? files env path? with
    | some path => fileNotes files path
    | none => []
  let loaded := match Settings.load files env path? with
    | .ok settings => [.loadedSettings settings.maxDepth]
    | .error _ => []
  reading ++ loaded

/-! ## Running -/

/-- The schema of a file, compiled under the settings that hold. -/
def loadSchema (files : Files) (env : Environment) (r : Request) : Except Failure Schema := do
  let settings ← (Settings.load files env r.configFile).mapError .settings
  let raw ← (Document.loadSchemaFile files r.schemaFile).mapError .document
  (Schema.compile .builtin settings.maxDepth raw).mapError .fault

/-- The errors of a document in a file. -/
def documentErrors (files : Files) (schema : Schema) (path : String) : Except Failure ErrorSet := do
  let document ← (Document.loadFile files path).mapError .document
  (schema.errors .builtin document .null .null).mapError .fault

/-- Failures to load a schema that are reported. -/
def isSchemaError (failure : Failure) : Bool :=
  failure.kind.isValue || failure.kind = .missingFile

/-- Failures to validate a document that are reported. -/
def isDocumentError (failure : Failure) : Bool :=
  failure.kind.isValue || failure.kind = .type

/-- The outcome of a failure, which is reported or leaves the program. -/
def failed (isReported : Failure → Bool) (failure : Failure) : Outcome :=
  if isReported failure then
    { log := echoed ("Error: " ++ failure.message ++ "\n"), ending := .exit 2 }
  else { ending := .crash failure }

/-- A report of errors as JSON. -/
def jsonReport (errors : ErrorSet) : Except Fault String :=
  Json.print (.dict [(.text "status", .text (if errors.isEmpty then "ok" else "invalid")),
    (.text "errors", .dict (errors.map fun e => (e.1, .text e.2)))])

/-- A report of errors as lines of text. -/
def textReport (errors : ErrorSet) : String :=
  if errors.isEmpty then "OK\n"
  else String.join (errors.map fun e => e.1.filled ++ ": " ++ e.2 ++ "\n")

def exitCode (errors : ErrorSet) : Nat := if errors.isEmpty then 0 else 1

def reportErrors (asJson : Bool) (errors : ErrorSet) : Outcome :=
  if asJson then
    match jsonReport errors with
    | .ok text => { output := text ++ "\n", ending := .exit (exitCode errors) }
    | .error fault => { ending := .crash (.fault fault) }
  else if errors.all fun e => e.1.isWritable then
    { output := echoed (textReport errors), ending := .exit (exitCode errors) }
  else { ending := .crash (.fault .integerTooLong) }

/-- Puts notes in front of the log. -/
def Outcome.after (notes : List Note) (o : Outcome) : Outcome :=
  { o with log := String.join (notes.map Note.line) ++ o.log }

/-- Validates a document against a schema; with the notes on the way. -/
def check (files : Files) (env : Environment) (r : Request) (dataFile : String) (asJson : Bool) :
    List Note × Outcome :=
  match loadSchema files env r with
  | .error failure => ([], failed isSchemaError failure)
  | .ok schema =>
    let compiled := Note.compiled schema.fields.length
    match documentErrors files schema dataFile with
    | .error failure => ([compiled], failed isDocumentError failure)
    | .ok errors => ([compiled, .validated errors.length], reportErrors asJson errors)

/-- Prints the canonical form of a schema; with the notes on the way. -/
def compile (files : Files) (env : Environment) (r : Request) : List Note × Outcome :=
  match loadSchema files env r with
  | .error failure => ([], failed isSchemaError failure)
  | .ok schema =>
    let compiled := Note.compiled schema.fields.length
    match Json.print schema.toValue with
    | .ok text => ([compiled], { output := text ++ "\n", ending := .exit 0 })
    | .error fault => ([compiled], { ending := .crash (.fault fault) })

/-- The release that the program is called by. -/
def release : String := "unknown"

/-- The help on a topic. -/
def help (topic : Topic) : String :=
  let config := "  --config FILE  Path to a fieldcheck.yaml settings file\n"
  let debug := "  --debug        Show detailed debug information\n"
  let about := match topic with
    | .program =>
      "  fieldcheck - validate YAML/JSON documents against a schema.\n\n"
        ++ "Options:\n"
        ++ "  --version  Show the version and exit.\n"
        ++ "  --help     Show this message and exit.\n\n"
        ++ "Commands:\n"
        ++ "  check    Validate DATA_FILE against SCHEMA_FILE.\n"
        ++ "  compile  Print the canonical form of SCHEMA_FILE as JSON.\n"
    | .check =>
      "  Validate DATA_FILE against SCHEMA_FILE.\n\n"
        ++ "  Every problem in the document is reported in one run.\n\n"
        ++ "Options:\n" ++ config
        ++ "  --json-output  Output in JSON format\n" ++ debug
        ++ "  --help         Show this message and exit.\n"
    | .compile =>
      "  Print the canonical form of SCHEMA_FILE as JSON.\n\n"
        ++ "Options:\n" ++ config ++ debug
        ++ "  --help         Show this message and exit.\n"
  topic.usage ++ "\n" ++ about

/-- The outcome of arguments that lead to no action. -/
def stopped : Stop → Outcome
  | .help topic => { output := help topic, ending := .exit 0 }
  | .version => { output := "fieldcheck, version " ++ release ++ "\n", ending := .exit 0 }
  | .bare => { log := help .program, ending := .exit 2 }
  | .mistaken topic mistake => { log := echoed (report topic mistake), ending := .exit 2 }

def Action.request : Action → Request
  | .check request _ _ => request
  | .compile request => request

def perform (files : Files) (env : Environment) (action : Action) : Outcome :=
  let (notes, outcome) := match action with
    | .check r dataFile asJson => check files env r dataFile asJson
    | .compile r => compile files env r
  let r := action.request
  if r.debug || isSwitchedOn (env.lookup debugVariable) false then
    outcome.after (settingsNotes files env r.configFile ++ notes)
  else outcome

/-- The paths that a run may consult: those among the arguments, the settings files, and their plain
forms. -/
def consulted (env : Environment) (arguments : List String) : List String :=
  let named := arguments ++ arguments.filterMap fun argument => (splitValue argument).2
  let paths := Settings.defaultFile :: (env.value? Settings.fileVariable).toList ++ named
  paths ++ paths.map FilePath.normal

/-- The variables that a run may consult. -/
def consultedVariables : List String :=
  [Settings.fileVariable, Settings.depthVariable, debugVariable]

/-- A run of the program. -/
def run (files : Files) (env : Environment) (arguments : List String) : Outcome :=
  match Action.ofArguments files arguments with
  | .ok action => perform files env action
  | .error stop => stopped stop

end DataShape.Command
