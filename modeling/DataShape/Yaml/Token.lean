import DataShape.Yaml.Scalar

/-!
# Tokens of YAML text

A YAML text as a list of tokens, in which the structure that indentation expresses is explicit:
blocks have a token at their start and at their end. A key is recognised by the colon after it, so
every token that may begin a key is remembered until its line ends, and the token for the key is
inserted in front of it once the colon is met. If the text cannot be read on, the list ends with the
reason.
-/

namespace DataShape.Yaml

open Text

inductive Directive where
  | version (major : Nat)
  /-- What the handle of a tag stands for. -/
  | tagHandle (handle expansion : List Char)
  | reserved

inductive Token where
  | directive (d : Directive)
  | documentStart
  | documentEnd
  | blockSequenceStart
  | blockMappingStart
  | blockEnd
  | flowSequenceStart
  | flowSequenceEnd
  | flowMappingStart
  | flowMappingEnd
  | flowEntry
  | blockEntry
  | key
  | value
  | alias (name : List Char)
  | anchor (name : List Char)
  | tag (handle : Option (List Char)) (suffix : List Char)
  | scalar (text : List Char) (isPlain : Bool)
  | streamEnd
  | failure (problem : Problem)

/-! ## Names, tags and directives -/

/-- Whether a character can stand in the name of an anchor, a handle or a directive. -/
def isNameChar (c : Char) : Bool := c.isAlphanum || c = '-' || c = '_'

def readName (c : Cursor) : Except Problem (List Char × Cursor) :=
  match c.span isNameChar with
  | ([], _) => .error .malformed
  | r => .ok r

/-- The name of an anchor or an alias after its mark. -/
def readAnchor (c : Cursor) : Except Problem (List Char × Cursor) := do
  let (name, c) ← readName c
  if endsWord c.next? || c.next?.any fun d => "?:,]\x7d%@\x60".toList.contains d then pure (name, c)
  else throw .malformed

def isTagChar (c : Char) : Bool :=
  c.isAlphanum || "-;/?:@&=+$,_.!~*'()[]".toList.contains c

/-- The bytes that are written by number, two hexadecimal digits after each percent sign. -/
def readBytes : List Char → Except Problem (List UInt8)
  | '%' :: a :: b :: rest =>
    if isHexDigit a && isHexDigit b then
      (readBytes rest).map (UInt8.ofNat (readBase 16 [a, b]) :: ·)
    else .error .malformed
  | '%' :: _ => .error .malformed
  | _ => .ok []

/-- The text of a tag up to the first character that no tag can hold. -/
def tagText : Nat → Cursor → Except Problem (List Char × Cursor)
  | 0, c => .ok ([], c)
  | bound + 1, c =>
    if c.next? = some '%' then do
      let bytes ← readBytes c.rest
      match String.fromUTF8? (ByteArray.mk bytes.toArray) with
      | none => throw .malformed
      | some s =>
        let (more, c) ← tagText bound (c.skip (3 * bytes.length))
        pure (s.toList ++ more, c)
    else
      match c.span isTagChar with
      | ([], c) => .ok ([], c)
      | (text, c) => (tagText bound c).map fun r => (text ++ r.1, r.2)

def readTagText (c : Cursor) : Except Problem (List Char × Cursor) :=
  let start := c.next?
  if start = some '%' ∨ start.any isTagChar then tagText (c.rest.length + 1) c
  else .error .malformed

/-- The handle of a tag: an exclamation mark, a name between two of them, or two of them. -/
def readHandle (c : Cursor) : Except Problem (List Char × Cursor) :=
  if c.next? ≠ some '!' then .error .malformed
  else if c.second? = some ' ' then .ok (['!'], c.step)
  else
    let (name, c) := c.step.span isNameChar
    if c.next? = some '!' then .ok ('!' :: name ++ ['!'], c.step) else .error .malformed

/-- A tag at its exclamation mark. -/
def readTag (c : Cursor) : Except Problem (Token × Cursor) := do
  let (handle, suffix, c) ←
    if c.second? = some '<' then do
      let (text, c) ← readTagText (c.skip 2)
      if c.next? ≠ some '>' then throw .malformed
      pure (none, text, c.step)
    else if endsWord c.second? then pure (none, ['!'], c.step)
    else do
      let word := (c.rest.drop 1).takeWhile fun d => !endsPart (some d)
      let (handle, c) ← if word.contains '!' then readHandle c else pure (['!'], c.step)
      let (text, c) ← readTagText c
      pure (some handle, text, c)
  if endsPart c.next? then pure (.tag handle suffix, c) else throw .malformed

/-- A decimal number in a directive. -/
def readVersionPart (c : Cursor) : Except Problem (Nat × Cursor) :=
  match c.span isLatinDigit with
  | ([], _) => .error .malformed
  | (digits, c) =>
    if digitLimit < digits.length then .error (.tooManyDigits digits.length)
    else .ok (readBase 10 digits, c)

def readVersion (c : Cursor) : Except Problem (Directive × Cursor) := do
  let (major, c) ← readVersionPart c.skipBlanks
  if c.next? ≠ some '.' then throw .malformed
  let (_, c) ← readVersionPart c.step
  if endsPart c.next? then pure (.version major, c) else throw .malformed

def readTagHandle (c : Cursor) : Except Problem (Directive × Cursor) := do
  let (handle, c) ← readHandle c.skipBlanks
  if c.next? ≠ some ' ' then throw .malformed
  let (expansion, c) ← readTagText c.skipBlanks
  if endsPart c.next? then pure (.tagHandle handle expansion, c) else throw .malformed

/-- A directive at its percent sign. -/
def readDirective (c : Cursor) : Except Problem (Directive × Cursor) := do
  let (name, c) ← readName c.step
  if !endsPart c.next? then throw .malformed
  let (directive, c) ←
    if name = "YAML".toList then readVersion c
    else if name = "TAG".toList then readTagHandle c
    else pure (.reserved, (c.span fun d => !isBreak d).2)
  let c := c.skipBlanks.skipComment
  if endsLine c.next? then pure (directive, (c.lineEnd?.map Prod.snd).getD c) else throw .malformed

/-! ## The tokens of a text -/

/-- A place where a key may have begun. A required key is the only thing that can stand there. -/
structure KeyPlace where
  /-- The number of tokens before it. -/
  position : Nat
  isRequired : Bool
  start : Cursor

structure Lexer where
  cursor : Cursor
  tokens : Array Token := #[]
  /-- How many flow collections are open. -/
  flowLevel : Nat := 0
  /-- The columns of the open blocks, innermost first. -/
  blocks : List Nat := []
  /-- Whether a key may begin here. -/
  allowsKey : Bool := true
  /-- The place of a possible key for each flow level. -/
  keys : List (Nat × KeyPlace) := []

namespace Lexer

def inFlow (l : Lexer) : Bool := l.flowLevel ≠ 0

/-- The least indentation of what belongs to the innermost block. -/
def indent (l : Lexer) : Nat := l.blocks.head?.elim 0 (· + 1)

/-- Takes a token, with the place after it. -/
def take (t : Token) (c : Cursor) (l : Lexer) : Lexer :=
  { l with tokens := l.tokens.push t, cursor := c }

/-- A key ends with its line and within 1024 characters. -/
def isStale (c : Cursor) (k : KeyPlace) : Bool :=
  k.start.line ≠ c.line || 1024 < c.index - k.start.index

def dropStale (l : Lexer) : Except Problem Lexer :=
  let stale := isStale l.cursor
  if l.keys.any fun e => stale e.2 && e.2.isRequired then .error .malformed
  else .ok { l with keys := l.keys.filter fun e => !stale e.2 }

def key? (l : Lexer) : Option KeyPlace := l.keys.lookup l.flowLevel

def eraseKey (l : Lexer) : Lexer := { l with keys := l.keys.filter fun e => e.1 ≠ l.flowLevel }

/-- Gives up the possible key of this level. -/
def dropKey (l : Lexer) : Except Problem Lexer :=
  if l.key?.any KeyPlace.isRequired then .error .malformed else .ok l.eraseKey

/-- Remembers that a key may begin here. -/
def markKey (l : Lexer) : Except Problem Lexer :=
  if l.allowsKey then do
    let isRequired := !l.inFlow && l.blocks.head? = some l.cursor.column
    let l ← l.dropKey
    pure { l with keys := (l.flowLevel, ⟨l.tokens.size, isRequired, l.cursor⟩) :: l.keys }
  else pure l

/-- Ends the blocks that are indented further than a column, or all of them. -/
def endBlocks (column? : Option Nat) (l : Lexer) : Lexer :=
  if l.inFlow then l
  else
    let isDeeper (block : Nat) := column?.all (· < block)
    let ended := l.blocks.takeWhile isDeeper
    { l with
      blocks := l.blocks.dropWhile isDeeper
      tokens := l.tokens ++ (ended.map fun _ => Token.blockEnd).toArray }

/-- Whether a block at a column lies inside the innermost one. -/
def isDeeper (column : Nat) (l : Lexer) : Bool := l.blocks.head?.all (· < column)

/-- Starts a block here unless one is open at this column. -/
def startBlock (t : Token) (l : Lexer) : Lexer :=
  let column := l.cursor.column
  if l.isDeeper column then { l with blocks := column :: l.blocks, tokens := l.tokens.push t }
  else l

/-- The end of the text. -/
def atEnd (l : Lexer) : Except Problem Lexer := do
  let l ← (l.endBlocks none).dropKey
  pure (l.take .streamEnd l.cursor)

def atDirective (l : Lexer) : Except Problem Lexer := do
  let l ← (l.endBlocks none).dropKey
  let (directive, c) ← readDirective l.cursor
  pure ({ l with allowsKey := false }.take (.directive directive) c)

/-- A mark that starts or ends a document. -/
def atDocumentMark (t : Token) (l : Lexer) : Except Problem Lexer := do
  let l ← (l.endBlocks none).dropKey
  pure ({ l with allowsKey := false }.take t (l.cursor.skip 3))

def atFlowStart (t : Token) (l : Lexer) : Except Problem Lexer := do
  let l ← l.markKey
  pure ({ l with flowLevel := l.flowLevel + 1, allowsKey := true }.take t l.cursor.step)

def atFlowEnd (t : Token) (l : Lexer) : Except Problem Lexer := do
  let l ← l.dropKey
  if !l.inFlow then throw .malformed
  pure ({ l with flowLevel := l.flowLevel - 1, allowsKey := false }.take t l.cursor.step)

def atFlowEntry (l : Lexer) : Except Problem Lexer := do
  let l ← l.dropKey
  pure ({ l with allowsKey := true }.take .flowEntry l.cursor.step)

def atBlockEntry (l : Lexer) : Except Problem Lexer := do
  if !l.inFlow && !l.allowsKey then throw .malformed
  let l := if l.inFlow then l else l.startBlock .blockSequenceStart
  let l ← { l with allowsKey := true }.dropKey
  pure (l.take .blockEntry l.cursor.step)

/-- The mark of a key that is no simple one. -/
def atKey (l : Lexer) : Except Problem Lexer := do
  if !l.inFlow && !l.allowsKey then throw .malformed
  let l := if l.inFlow then l else l.startBlock .blockMappingStart
  let l ← { l with allowsKey := !l.inFlow }.dropKey
  pure (l.take .key l.cursor.step)

/-- The colon before a value, which settles that a key began at the place that was remembered. -/
def atValue (l : Lexer) : Except Problem Lexer := do
  match l.key? with
  | some place =>
    let column := place.start.column
    let startsBlock := !l.inFlow && l.isDeeper column
    let inserted := if startsBlock then #[Token.blockMappingStart, .key] else #[.key]
    let tokens := l.tokens.extract 0 place.position ++ inserted
      ++ l.tokens.extract place.position l.tokens.size
    let l := { l.eraseKey with
      tokens := tokens
      blocks := if startsBlock then column :: l.blocks else l.blocks
      allowsKey := false }
    pure (l.take .value l.cursor.step)
  | none =>
    if !l.inFlow && !l.allowsKey then throw .malformed
    let l := if l.inFlow then l else l.startBlock .blockMappingStart
    let l ← { l with allowsKey := !l.inFlow }.dropKey
    pure (l.take .value l.cursor.step)

/-- An alias or an anchor. -/
def atName (t : List Char → Token) (l : Lexer) : Except Problem Lexer := do
  let l ← l.markKey
  let (name, c) ← readAnchor l.cursor.step
  pure ({ l with allowsKey := false }.take (t name) c)

def atTag (l : Lexer) : Except Problem Lexer := do
  let l ← l.markKey
  let (t, c) ← readTag l.cursor
  pure ({ l with allowsKey := false }.take t c)

def atBlock (isFolded : Bool) (l : Lexer) : Except Problem Lexer := do
  let l ← { l with allowsKey := true }.dropKey
  let (text, c) ← readBlock isFolded l.indent l.cursor
  pure (l.take (.scalar text false) c)

def atQuoted (isDouble : Bool) (l : Lexer) : Except Problem Lexer := do
  let l ← l.markKey
  let (text, c) ← readQuoted isDouble l.cursor
  pure ({ l with allowsKey := false }.take (.scalar text false) c)

def atPlain (l : Lexer) : Except Problem Lexer := do
  let l ← l.markKey
  let (text, c, crossed) := readPlain l.inFlow l.indent l.cursor
  pure ({ l with allowsKey := crossed }.take (.scalar text true) c)

/-- The place of the next token, past blanks, line ends and comments; and whether a line ended. -/
def skipGap : Nat → Bool → Cursor → Cursor × Bool
  | 0, crossed, c => (c, crossed)
  | bound + 1, crossed, c =>
    let c := c.skipBlanks.skipComment
    match c.lineEnd? with
    | some (_, c) => skipGap bound true c
    | none => (c, crossed)

/-- Reads the next token, and those that its place implies. -/
def next (l : Lexer) : Except Problem Lexer := do
  let start :=
    if l.cursor.index = 0 && l.cursor.next? = some '\ufeff' then l.cursor.step else l.cursor
  let (c, crossed) := skipGap (start.rest.length + 1) false start
  let l ← { l with cursor := c, allowsKey := l.allowsKey || (crossed && !l.inFlow) }.dropStale
  let l := l.endBlocks (some c.column)
  match c.next? with
  | none => l.atEnd
  | some d =>
    let isMark := endsWord c.second?
    if d = '%' && c.column = 0 then l.atDirective
    else if c.column = 0 && c.isAtMark "---" then l.atDocumentMark .documentStart
    else if c.column = 0 && c.isAtMark "..." then l.atDocumentMark .documentEnd
    else if d = '[' then l.atFlowStart .flowSequenceStart
    else if d = '\x7b' then l.atFlowStart .flowMappingStart
    else if d = ']' then l.atFlowEnd .flowSequenceEnd
    else if d = '\x7d' then l.atFlowEnd .flowMappingEnd
    else if d = ',' then l.atFlowEntry
    else if d = '-' && isMark then l.atBlockEntry
    else if d = '?' && (l.inFlow || isMark) then l.atKey
    else if d = ':' && (l.inFlow || isMark) then l.atValue
    else if d = '*' then l.atName .alias
    else if d = '&' then l.atName .anchor
    else if d = '!' then l.atTag
    else if d = '|' && !l.inFlow then l.atBlock false
    else if d = '>' && !l.inFlow then l.atBlock true
    else if d = '\'' then l.atQuoted false
    else if d = '"' then l.atQuoted true
    else if startsPlain l.inFlow c then l.atPlain
    else throw .malformed

/-- The tokens from here on, within a bound on their number. -/
def run : Nat → Lexer → List Token
  | 0, l => l.tokens.toList ++ [.failure .malformed]
  | bound + 1, l =>
    match l.next with
    | .error problem => l.tokens.toList ++ [.failure problem]
    | .ok after =>
      match after.tokens.back? with
      | some .streamEnd => after.tokens.toList
      | _ => run bound after

end Lexer

/-- The tokens of a text. -/
def Token.ofText (text : List Char) : List Token :=
  if text.all isPermitted then Lexer.run (text.length + 2) { cursor := ⟨text, 0, 0, 0⟩ }
  else [.failure .malformed]

end DataShape.Yaml
