/-!
# Files

What a program finds at the paths that it is given. Files are a function from paths, so that what a
program reads is seen from its calls of that function; a folder in memory is one such function.
-/

namespace DataShape

/-- What stands at a path. -/
inductive FileEntry where
  | file (content : String)
  | folder

/-- What stands at each path, if there is anything. -/
abbrev Files := String → Option FileEntry

/-- The values of environment variables by name. -/
abbrev Environment := List (String × String)

namespace Environment

/-- The value of a variable that is set to a non-empty text. -/
def value? (env : Environment) (name : String) : Option String :=
  (env.lookup name).filter fun s => !s.isEmpty

end Environment

namespace FilePath

/-- The parts of a path between its slashes. -/
def segments (path : String) : List String :=
  (path.toList.splitOnP (· = '/')).map String.ofList

/-- The names on a path, without empty parts and single dots. -/
def names (path : String) : List String :=
  (segments path).filter fun s => s ≠ "" && s ≠ "."

/-- What an absolute path starts with: a slash, or exactly two. -/
def root (path : String) : String :=
  match path.toList with
  | '/' :: '/' :: '/' :: _ => "/"
  | '/' :: '/' :: _ => "//"
  | '/' :: _ => "/"
  | _ => ""

/-- A path without superfluous slashes and dots; the working folder is a dot. -/
def normal (path : String) : String :=
  let body := root path ++ "/".intercalate (names path)
  if body.isEmpty then "." else body

/-- The last name on a path. -/
def fileName (path : String) : String := (names path).getLast?.getD ""

/-- The end of the file name from its last dot on. A dot at either end of the name starts none. -/
def suffix (path : String) : String :=
  let name := (fileName path).toList
  let tail := name.reverse.takeWhile (· ≠ '.')
  if tail.length + 1 < name.length ∧ ¬tail.isEmpty then String.ofList ('.' :: tail.reverse) else ""

end FilePath

namespace Files

/-- A folder in memory: the contents of files by the names on the way to them, or nothing for a
folder. -/
abbrev Tree := List (List String × Option String)

/-- What stands at the names of a tree. Every folder on the way to an entry is there. -/
def entryOf (tree : Tree) (names : List String) : Option FileEntry :=
  match (tree.reverse.lookup names).map (·.elim FileEntry.folder .file) with
  | some entry => some entry
  | none =>
    if names.isEmpty || tree.any fun e => names.isPrefixOf e.1 then some .folder else none

/-- Follows the parts of a path through a tree, of which every one but the last must be a folder.
The folders around the tree hold nothing else. -/
def follow (tree : Tree) : (place : List String) → (outside : Nat) → List String → Option FileEntry
  | place, outside, [] => if outside = 0 then entryOf tree place else some .folder
  | place, outside, s :: rest =>
    let isFolder := outside ≠ 0 || match entryOf tree place with
      | some .folder => true
      | _ => false
    if !isFolder then none
    else if s = "" ∨ s = "." then follow tree place outside rest
    else if s = ".." then
      if place.isEmpty then follow tree [] (outside + 1) rest
      else follow tree place.dropLast outside rest
    else if outside = 0 then follow tree (place ++ [s]) 0 rest
    else none

/-- The files of a folder in memory, as they are seen from inside it. -/
def ofList (entries : List (String × Option String)) : Files := fun path =>
  let tree : Tree := entries.map fun (name, content?) => (FilePath.names name, content?)
  if path.isEmpty then none
  else if FilePath.root path ≠ "" then
    if (FilePath.names path).isEmpty then some .folder else none
  else follow tree [] 0 (FilePath.segments path)

/-- The content of a file with every line end as a line feed. -/
def unifyLines : List Char → List Char
  | '\r' :: '\n' :: rest => '\n' :: unifyLines rest
  | '\r' :: rest => '\n' :: unifyLines rest
  | c :: rest => c :: unifyLines rest
  | [] => []

end Files

end DataShape
