import DataShape.Failure
import DataShape.Files
import DataShape.Json.Reader
import DataShape.Text.Case
import DataShape.Yaml.Meaning

/-!
# Documents

Values from YAML or JSON text. A file says by its suffix which of the two it holds, and a schema
document must hold a mapping.
-/

namespace DataShape

/-- The formats of documents. -/
inductive DocumentFormat where
  | yaml
  | json
deriving DecidableEq

namespace DocumentFormat

def ofName? : String → Option DocumentFormat
  | "yaml" => some .yaml
  | "json" => some .json
  | _ => none

/-- The format of the files with a suffix, in letters of either case. -/
def ofSuffix? (suffix : String) : Option DocumentFormat :=
  match String.ofList (Text.lowerText suffix.toList) with
  | ".yaml" | ".yml" => some .yaml
  | ".json" => some .json
  | _ => none

end DocumentFormat

namespace Yaml

def Problem.kind : Problem → FailureKind
  | .notCharacter true => .overflow
  | .notBoolean _ => .entry
  | .emptyNumber => .position
  | .notTimestamp => .member
  | .timestampMapping => .type
  | .recursive | .loneHalf => .unsupported
  | _ => .value

end Yaml

namespace Document

inductive Problem where
  | unsupportedFormat (name : String)
  | unsupportedSuffix (suffix : String)
  | missing (path : String)
  | folder (path : String)
  | yaml (problem : Yaml.Problem)
  | json (problem : Json.Problem) (text : List Char)
  /-- A schema document that is no mapping. -/
  | notMapping (v : Value)

def Problem.message : Problem → String
  | .unsupportedFormat name => "Unsupported format: " ++ name ++ ". Use 'yaml' or 'json'"
  | .unsupportedSuffix suffix =>
    "Unsupported file extension: " ++ suffix ++ ". Use .yaml, .yml, or .json"
  | .missing path => "File not found: " ++ path
  | .folder path => "[Errno 21] Is a directory: " ++ Text.quoted path
  | .yaml problem => problem.message
  | .json problem text =>
    match problem with
    | .malformed .. => "Failed to parse JSON: " ++ problem.message text
    | problem => problem.message text
  | .notMapping v => "Schema document must be a mapping, got " ++ v.className

def Problem.kind : Problem → FailureKind
  | .missing _ => .missingFile
  | .folder _ => .folder
  | .yaml problem => problem.kind
  | .json .loneHalf _ => .unsupported
  | _ => .value

/-- The value of a text in a format. -/
def read (format : DocumentFormat) (text : List Char) : Except Problem Value :=
  match format with
  | .yaml => (Yaml.read text).mapError .yaml
  | .json => (Json.read text).mapError fun problem => .json problem text

/-- The value of a text in a format that is given by name. -/
def load (format : String) (text : String) : Except Problem Value :=
  match DocumentFormat.ofName? format with
  | some format => read format text.toList
  | none => .error (.unsupportedFormat format)

/-- The value of a file. -/
def loadFile (files : Files) (path : String) : Except Problem Value :=
  let path := FilePath.normal path
  match files path with
  | none => .error (.missing path)
  | some entry =>
    match DocumentFormat.ofSuffix? (FilePath.suffix path), entry with
    | none, _ => .error (.unsupportedSuffix (FilePath.suffix path))
    | some _, .folder => .error (.folder path)
    | some format, .file content => read format (Files.unifyLines content.toList)

/-- A value as a schema document. -/
def asSchema (v : Value) : Except Problem Value :=
  match v with
  | .mapping .plain _ => .ok v
  | _ => .error (.notMapping v)

def loadSchema (format : String) (text : String) : Except Problem Value :=
  load format text >>= asSchema

def loadSchemaFile (files : Files) (path : String) : Except Problem Value :=
  loadFile files path >>= asSchema

end Document

end DataShape
