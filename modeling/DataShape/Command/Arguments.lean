import DataShape.Files
import DataShape.Text.Quoted
import DataShape.Text.Resemblance

/-!
# Command line arguments

What the arguments of the program ask for. Options may stand anywhere after the name of the command;
two hyphens end them. Of several mistakes an unknown or incomplete option is reported first, then
the files that are named, then what is left over.
-/

namespace DataShape.Command

open Text

/-- What a usage text is about: the program or one of its commands. -/
inductive Topic where
  | program
  | check
  | compile
deriving DecidableEq

/-- An option: its name, and whether a value follows it. -/
structure OptionForm where
  name : String
  takesValue : Bool := false

namespace Topic

/-- The words by which a topic is called. -/
def title : Topic → String
  | .program => "fieldcheck"
  | .check => "fieldcheck check"
  | .compile => "fieldcheck compile"

def usage (t : Topic) : String :=
  let operands := match t with
    | .program => "COMMAND [ARGS]..."
    | .check => "SCHEMA_FILE DATA_FILE"
    | .compile => "SCHEMA_FILE"
  "Usage: " ++ t.title ++ " [OPTIONS] " ++ operands ++ "\n"

def options : Topic → List OptionForm
  | .program => [⟨"--version", false⟩, ⟨"--help", false⟩]
  | .check =>
    [⟨"--config", true⟩, ⟨"--json-output", false⟩, ⟨"--debug", false⟩, ⟨"--help", false⟩]
  | .compile => [⟨"--config", true⟩, ⟨"--debug", false⟩, ⟨"--help", false⟩]

/-- Whether options may follow the first operand. -/
def isInterspersed : Topic → Bool
  | .program => false
  | _ => true

end Topic

/-- A mistake in the arguments. -/
inductive Mistake where
  | unknownOption (name : String) (suggestions : List String)
  | noArgument (name : String)
  | needlessValue (name : String)
  | missingOperand (name : String)
  /-- A file that does not exist; the operand or option that names it comes first. -/
  | noFile (operand path : String)
  | folder (operand path : String)
  | leftOver (operands : List String)
  | noCommand
  | unknownCommand (name : String) (suggestions : List String)

def suggestion (words : List String) : String :=
  match words with
  | [] => ""
  | [word] => " Did you mean " ++ quoted word ++ "?"
  | words => " (Did you mean one of: " ++ ", ".intercalate (words.map quoted) ++ "?)"

def Mistake.message : Mistake → String
  | .unknownOption name words => "No such option " ++ quoted name ++ "." ++ suggestion words
  | .noArgument name => "Option " ++ quoted name ++ " requires an argument."
  | .needlessValue name => "Option " ++ quoted name ++ " does not take a value."
  | .missingOperand name => "Missing argument '" ++ name ++ "'."
  | .noFile operand path =>
    "Invalid value for '" ++ operand ++ "': File " ++ quoted path ++ " does not exist."
  | .folder operand path =>
    "Invalid value for '" ++ operand ++ "': File " ++ quoted path ++ " is a directory."
  | .leftOver operands =>
    "Got unexpected extra argument" ++ (if operands.length = 1 then "" else "s") ++ " ("
      ++ " ".intercalate operands ++ ")"
  | .noCommand => "Missing command."
  | .unknownCommand name words => "No such command " ++ quoted name ++ "." ++ suggestion words

/-- Whether a mistake is reported together with the usage. -/
def Mistake.showsUsage : Mistake → Bool
  | .noArgument _ | .needlessValue _ => false
  | _ => true

/-- Why the arguments lead to no action. -/
inductive Stop where
  | help (topic : Topic)
  | version
  /-- The program was called without arguments. -/
  | bare
  | mistaken (topic : Topic) (mistake : Mistake)

/-- The report of a mistake. -/
def report (topic : Topic) (mistake : Mistake) : String :=
  let hint :=
    if mistake.showsUsage then topic.usage ++ "Try '" ++ topic.title ++ " --help' for help.\n\n"
    else ""
  hint ++ "Error: " ++ mistake.message ++ "\n"

/-! ## Options and operands -/

/-- Arguments told apart: the options in order with their values, and the operands. -/
structure Split where
  options : List (String × String) := []
  operands : List String := []

def Split.addOption (name value : String) (s : Split) : Split :=
  { s with options := (name, value) :: s.options }

def Split.addOperand (operand : String) (s : Split) : Split :=
  { s with operands := operand :: s.operands }

def isOption (argument : String) : Bool := argument.startsWith "-" && argument.length ≠ 1

/-- An option as it is written: its name and the value after an equals sign. -/
def splitValue (argument : String) : String × Option String :=
  let cs := argument.toList
  let name := String.ofList (cs.takeWhile (· ≠ '='))
  match cs.dropWhile (· ≠ '=') with
  | [] => (name, none)
  | _ :: value => (name, some (String.ofList value))

/-- The failure to know an option. After a single hyphen each letter is an option of its own. -/
def unknown (topic : Topic) (argument : String) : Mistake :=
  if argument.startsWith "--" then
    let name := (splitValue argument).1
    .unknownOption name (resembling name (topic.options.map OptionForm.name))
  else .unknownOption (String.ofList (argument.toList.take 2)) []

/-- Tells options and operands apart. -/
def split (topic : Topic) : List String → Except Mistake Split
  | [] => .ok {}
  | "--" :: rest => .ok { operands := rest }
  | argument :: rest =>
    if isOption argument then
      let (name, value?) := splitValue argument
      match topic.options.find? fun o => o.name = name with
      | none => .error (unknown topic argument)
      | some o =>
        match o.takesValue, value? with
        | false, some _ => .error (.needlessValue name)
        | false, none => (split topic rest).map (Split.addOption name "")
        | true, some value => (split topic rest).map (Split.addOption name value)
        | true, none =>
          match rest with
          | [] => .error (.noArgument name)
          | value :: rest => (split topic rest).map (Split.addOption name value)
    else if topic.isInterspersed then (split topic rest).map (Split.addOperand argument)
    else .ok { operands := argument :: rest }

/-- The last value of an option. -/
def Split.value? (name : String) (s : Split) : Option String := s.options.reverse.lookup name

def Split.has (name : String) (s : Split) : Bool := (s.value? name).isSome

/-! ## Requests -/

/-- What both commands are told. -/
structure Request where
  schemaFile : String
  configFile : Option String := none
  debug : Bool := false

inductive Action where
  | check (request : Request) (dataFile : String) (asJson : Bool)
  | compile (request : Request)

/-- A file that an operand names, which must exist. -/
def existing (files : Files) (operand : String) (path? : Option String) : Except Mistake String :=
  match path? with
  | none => .error (.missingOperand operand)
  | some path =>
    match files path with
    | none => .error (.noFile operand path)
    | some .folder => .error (.folder operand path)
    | some (.file _) => .ok path

/-- A settings file, which must not be a folder. -/
def settingsFile (files : Files) (path? : Option String) : Except Mistake (Option String) :=
  match path? with
  | none => .ok none
  | some path =>
    match files path with
    | some .folder => .error (.folder "--config" path)
    | _ => .ok (some path)

def request (files : Files) (s : Split) : Except Mistake Request := do
  let configFile ← settingsFile files (s.value? "--config")
  let schemaFile ← existing files "SCHEMA_FILE" s.operands.head?
  pure { schemaFile, configFile, debug := s.has "--debug" }

/-- Refuses operands that are left over. -/
def finish (operands : List String) : Except Mistake Unit :=
  if operands.isEmpty then .ok () else .error (.leftOver operands)

def checkAction (files : Files) (s : Split) : Except Mistake Action := do
  let request ← request files s
  let dataFile ← existing files "DATA_FILE" s.operands[1]?
  finish (s.operands.drop 2)
  pure (.check request dataFile (s.has "--json-output"))

def compileAction (files : Files) (s : Split) : Except Mistake Action := do
  let request ← request files s
  finish (s.operands.drop 1)
  pure (.compile request)

/-- The action that a command and its arguments ask for. -/
def actionOf (files : Files) (topic : Topic) (arguments : List String)
    (action : Files → Split → Except Mistake Action) : Except Stop Action := do
  let s ← (split topic arguments).mapError (.mistaken topic)
  if s.has "--help" then throw (.help topic)
  (action files s).mapError (.mistaken topic)

/-- The stop that the options of the program itself ask for; the first one counts. -/
def Split.stop? (s : Split) : Option Stop :=
  s.options.head?.map fun o => if o.1 = "--version" then .version else .help .program

/-- The stop for a word that is no command. One that looks like an option is taken for one. -/
def unknownCommand (word : String) (rest : List String) : Stop :=
  match split .program (word :: rest) with
  | .error mistake => .mistaken .program mistake
  | .ok s =>
    s.stop?.getD
      (.mistaken .program (.unknownCommand word (resembling word ["check", "compile"])))

/-- What the arguments ask for. -/
def Action.ofArguments (files : Files) (arguments : List String) : Except Stop Action := do
  if arguments.isEmpty then throw .bare
  let s ← (split .program arguments).mapError (.mistaken .program)
  match s.stop?, s.operands with
  | some stop, _ => throw stop
  | none, [] => throw (.mistaken .program .noCommand)
  | none, "check" :: rest => actionOf files .check rest checkAction
  | none, "compile" :: rest => actionOf files .compile rest compileAction
  | none, word :: rest => throw (unknownCommand word rest)

end DataShape.Command
