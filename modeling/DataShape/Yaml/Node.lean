import DataShape.Yaml.Tag
import DataShape.Yaml.Token

/-!
# Nodes of a YAML document

The tree that a text describes: every node with its tag, and every alias replaced by the node that
its anchor names. A text holds one document at most. An anchor names one node. A node that holds
itself is no tree and is not read.
-/

namespace DataShape.Yaml

inductive Node where
  | scalar (tag : Tag) (text : List Char)
  | sequence (tag : Tag) (items : List Node)
  | mapping (tag : Tag) (entries : List (Node × Node))

namespace Node

/-- The node that stands where none is written. -/
def empty : Node := .scalar Tag.null []

/-- What has been read: the tokens that are left, and the anchors met so far with their nodes, which
are absent while they are being read. -/
structure Reader where
  tokens : List Token
  anchors : List (List Char × Option Node) := []

abbrev Read (α : Type) := StateT Reader (Except Problem) α

/-- The next token. -/
def peek : Read Token := do
  match (← get).tokens with
  | [] => throw .malformed
  | .failure problem :: _ => throw problem
  | t :: _ => pure t

def drop : Read Unit := modify fun r => { r with tokens := r.tokens.drop 1 }

def setAnchor (name? : Option (List Char)) (node? : Option Node) : Read Unit :=
  match name? with
  | none => pure ()
  | some name => modify fun r => { r with anchors := (name, node?) :: r.anchors }

/-- Takes the name of an anchor, which must be new. -/
def openAnchor (name? : Option (List Char)) : Read Unit := do
  let known := (← get).anchors
  if name?.any fun name => (known.lookup name).isSome then throw .malformed
  setAnchor name? none

/-- The properties of a node: an anchor and a tag in either order, each at most once. -/
structure Properties where
  anchor : Option (List Char) := none
  tag : Option (Option (List Char) × List Char) := none

def readProperties : Read Properties := do
  match ← peek with
  | .anchor name =>
    drop
    match ← peek with
    | .tag handle suffix => drop; pure ⟨some name, some (handle, suffix)⟩
    | _ => pure ⟨some name, none⟩
  | .tag handle suffix =>
    drop
    match ← peek with
    | .anchor name => drop; pure ⟨some name, some (handle, suffix)⟩
    | _ => pure ⟨none, some (handle, suffix)⟩
  | _ => pure {}

/-- What the handles of tags stand for. -/
abbrev Handles := List (List Char × List Char)

def defaultHandles : Handles := [(['!'], ['!']), (['!', '!'], Tag.common)]

/-- The tag that is written at a node. -/
def writtenTag (handles : Handles) (p : Properties) : Read (Option Tag) :=
  match p.tag with
  | none => pure none
  | some (none, suffix) => pure (some suffix)
  | some (some handle, suffix) =>
    match handles.lookup handle with
    | some expansion => pure (some (expansion ++ suffix))
    | none => throw .malformed

/-- The tag of a node: the one that is written, unless it asks for the default. -/
def tagOr (default : Tag) (written? : Option Tag) : Tag :=
  match written? with
  | some tag => if tag = Tag.plain then default else tag
  | none => default

def scalarTag (written? : Option Tag) (text : List Char) (isPlain : Bool) : Tag :=
  if isPlain || written? = some Tag.plain then tagOr (Tag.ofPlain text) written?
  else tagOr Tag.text written?

/-- Where a node stands: inside a flow collection, inside a block, or as a value of a block mapping,
where a sequence needs no indentation. -/
inductive Place where
  | flow
  | block
  | member
deriving DecidableEq

mutual

/-- A node, within a bound on the steps. -/
def readNode (handles : Handles) : Nat → Place → Read Node
  | 0, _ => throw .malformed
  | bound + 1, place => do
    match ← peek with
    | .alias name =>
      drop
      match (← get).anchors.lookup name with
      | some (some node) => pure node
      | some none => throw .recursive
      | none => throw .malformed
    | _ =>
      let properties ← readProperties
      let written? ← writtenTag handles properties
      openAnchor properties.anchor
      let node ← readContent handles bound place properties written?
      setAnchor properties.anchor (some node)
      pure node

/-- What follows the properties of a node. Properties alone make an empty scalar. -/
def readContent (handles : Handles) : Nat → Place → Properties → Option Tag → Read Node
  | 0, _, _, _ => throw .malformed
  | bound + 1, place, properties, written? => do
    let sequence (items : List Node) : Node := .sequence (tagOr Tag.sequence written?) items
    let mapping (entries : List (Node × Node)) : Node :=
      .mapping (tagOr Tag.mapping written?) entries
    match ← peek with
    | .scalar text isPlain => drop; return .scalar (scalarTag written? text isPlain) text
    | .flowSequenceStart => drop; return sequence (← readFlowItems handles bound true)
    | .flowMappingStart => drop; return mapping (← readFlowEntries handles bound true)
    | .blockSequenceStart =>
      if place ≠ .flow then drop; return sequence (← readBlockItems handles bound)
    | .blockMappingStart =>
      if place ≠ .flow then drop; return mapping (← readBlockEntries handles bound)
    | .blockEntry => if place = .member then return sequence (← readOpenItems handles bound)
    | _ => pure ()
    if properties.anchor.isSome || written?.isSome then
      return .scalar (scalarTag written? [] written?.isNone) []
    throw .malformed

/-- The items of a block sequence up to its end. -/
def readBlockItems (handles : Handles) : Nat → Read (List Node)
  | 0 => throw .malformed
  | bound + 1 => do
    match ← peek with
    | .blockEntry =>
      drop
      let item ← match ← peek with
        | .blockEntry | .blockEnd => pure empty
        | _ => readNode handles bound .block
      return item :: (← readBlockItems handles bound)
    | .blockEnd => drop; pure []
    | _ => throw .malformed

/-- The items of a sequence that is not indented: as long as there are entries. -/
def readOpenItems (handles : Handles) : Nat → Read (List Node)
  | 0 => throw .malformed
  | bound + 1 => do
    match ← peek with
    | .blockEntry =>
      drop
      let item ← match ← peek with
        | .blockEntry | .key | .value | .blockEnd => pure empty
        | _ => readNode handles bound .block
      return item :: (← readOpenItems handles bound)
    | _ => pure []

/-- The key or the value after its mark in a block mapping. -/
def readMember (handles : Handles) : Nat → Read Node
  | 0 => throw .malformed
  | bound + 1 => do
    match ← peek with
    | .key | .value | .blockEnd => pure empty
    | _ => readNode handles bound .member

/-- The entries of a block mapping up to its end. -/
def readBlockEntries (handles : Handles) : Nat → Read (List (Node × Node))
  | 0 => throw .malformed
  | bound + 1 => do
    match ← peek with
    | .key =>
      drop
      let key ← readMember handles bound
      let value ← match ← peek with
        | .value => drop; readMember handles bound
        | _ => pure empty
      return (key, value) :: (← readBlockEntries handles bound)
    | .blockEnd => drop; pure []
    | _ => throw .malformed

/-- The value of an entry in a flow collection, if a colon follows. -/
def readFlowValue (handles : Handles) : Nat → Read Node
  | 0 => throw .malformed
  | bound + 1 => do
    match ← peek with
    | .value =>
      drop
      match ← peek with
      | .flowEntry | .flowSequenceEnd | .flowMappingEnd => pure empty
      | _ => readNode handles bound .flow
    | _ => pure empty

/-- An entry of a flow collection after the mark of its key. -/
def readFlowEntry (handles : Handles) : Nat → Read (Node × Node)
  | 0 => throw .malformed
  | bound + 1 => do
    let key ← match ← peek with
      | .value | .flowEntry | .flowSequenceEnd | .flowMappingEnd => pure empty
      | _ => readNode handles bound .flow
    return (key, ← readFlowValue handles bound)

/-- The items of a flow sequence up to its end, with commas between. An entry among them is a
mapping of its own. -/
def readFlowItems (handles : Handles) : Nat → Bool → Read (List Node)
  | 0, _ => throw .malformed
  | bound + 1, isFirst => do
    match ← peek, isFirst with
    | .flowSequenceEnd, _ => drop; pure []
    | .flowEntry, false =>
      drop
      match ← peek with
      | .flowSequenceEnd => drop; pure []
      | _ => readFlowItem handles bound
    | _, true => readFlowItem handles bound
    | _, false => throw .malformed

def readFlowItem (handles : Handles) : Nat → Read (List Node)
  | 0 => throw .malformed
  | bound + 1 => do
    let item ← match ← peek with
      | .key => drop; pure (.mapping Tag.mapping [← readFlowEntry handles bound])
      | _ => readNode handles bound .flow
    return item :: (← readFlowItems handles bound false)

/-- The entries of a flow mapping up to its end, with commas between. -/
def readFlowEntries (handles : Handles) : Nat → Bool → Read (List (Node × Node))
  | 0, _ => throw .malformed
  | bound + 1, isFirst => do
    match ← peek, isFirst with
    | .flowMappingEnd, _ => drop; pure []
    | .flowEntry, false =>
      drop
      match ← peek with
      | .flowMappingEnd => drop; pure []
      | _ => readFlowMember handles bound
    | _, true => readFlowMember handles bound
    | _, false => throw .malformed

def readFlowMember (handles : Handles) : Nat → Read (List (Node × Node))
  | 0 => throw .malformed
  | bound + 1 => do
    let entry ← match ← peek with
      | .key => drop; readFlowEntry handles bound
      | _ => pure (← readNode handles bound .flow, empty)
    return entry :: (← readFlowEntries handles bound false)

end

/-- Reads the directives before a document: the version at most once, and each handle at most once.
-/
def readDirectives : Nat → Bool → Handles → Read Handles
  | 0, _, _ => throw .malformed
  | bound + 1, hasVersion, handles => do
    match ← peek with
    | .directive (.version major) =>
      if hasVersion ∨ major ≠ 1 then throw .malformed
      drop
      readDirectives bound true handles
    | .directive (.tagHandle handle expansion) =>
      if (handles.lookup handle).isSome then throw .malformed
      drop
      readDirectives bound hasVersion ((handle, expansion) :: handles)
    | .directive .reserved => drop; readDirectives bound hasVersion handles
    | _ => pure handles

/-- The node of a document after its start mark. -/
def readDocument (handles : Handles) (bound : Nat) : Read Node := do
  match ← peek with
  | .directive _ | .documentStart | .documentEnd | .streamEnd => pure empty
  | _ => readNode handles bound .block

/-- Skips the marks that end a document; nothing may follow them. -/
def readEnd : Nat → Read Unit
  | 0 => throw .malformed
  | bound + 1 => do
    match ← peek with
    | .documentEnd => drop; readEnd bound
    | .streamEnd => pure ()
    | _ => throw .malformed

/-- The node of the only document, or nothing where there is none. -/
def readStream (bound : Nat) : Read (Option Node) := do
  match ← peek with
  | .streamEnd => pure none
  | .directive _ | .documentStart =>
    let written ← readDirectives bound false []
    match ← peek with
    | .documentStart => drop
    | _ => throw .malformed
    let node ← readDocument (written ++ defaultHandles) bound
    readEnd bound
    pure (some node)
  | _ =>
    let node ← readNode defaultHandles bound .block
    readEnd bound
    pure (some node)

/-- The node that a text describes. -/
def ofText? (text : List Char) : Except Problem (Option Node) :=
  let tokens := Token.ofText text
  ((readStream (4 * tokens.length + 4)).run ⟨tokens, []⟩).map Prod.fst

end Node

end DataShape.Yaml
