import DataShape.Number.Numeral
import DataShape.Pattern.Complaint
import DataShape.Pattern.Node
import DataShape.Pattern.Options
import DataShape.Text.Names

/-!
# Reading patterns

From the text of a pattern to its tree. The text is cut into marks beforehand, a backslash and the
character after it being one mark; a lone backslash at the end is refused as soon as it comes next.
A nested part costs two units of fuel and at least one mark, so twice the number of marks suffices.
-/

namespace DataShape.Pattern

open Text

/-- A character of the text, alone or after a backslash, or a backslash that ends it. -/
inductive Mark where
  | plain (c : Char)
  | escape (c : Char)
  | lone
deriving DecidableEq

def Mark.text : Mark → String
  | .plain c => c.toString
  | .escape c => String.ofList ['\\', c]
  | .lone => "\\"

def Mark.size : Mark → Nat
  | .escape _ => 2
  | _ => 1

def marks : List Char → List Mark
  | '\\' :: c :: rest => .escape c :: marks rest
  | ['\\'] => [.lone]
  | c :: rest => .plain c :: marks rest
  | [] => []

/-- What has been read of a pattern. -/
structure Progress where
  rest : List Mark
  /-- The place of the next mark. -/
  position : Nat := 0
  /-- Whether the pattern is for text rather than bytes. -/
  isText : Bool
  options : Options
  names : List (String × Nat) := []
  /-- The width of each group, none while it is open; the whole pattern comes first. -/
  widths : List (Option (Nat × Nat)) := [none]
  /-- The number of groups before the outermost lookbehind that is open. -/
  lookbehind : Option Nat := none
  /-- Groups that a condition asks for by number, and where. -/
  asked : List (Nat × Nat) := []

abbrev Reading := StateT Progress (Except Complaint)

/-- The options of the whole pattern so far: text is of every script unless it is said to be
Latin. -/
def Progress.inForce (p : Progress) : Options :=
  if p.isText && !p.options.latin then { p.options with unicode := true } else p.options

def refuse {α : Type} (cause : Cause) (position : Nat) : Reading α :=
  throw (.fault cause (some position))

/-- Refuses at a place that many characters before the next mark. -/
def refuseBack {α : Type} (cause : Cause) (offset : Nat := 0) : Reading α := do
  refuse cause ((← get).position - offset)

def next? : Reading (Option Mark) := return (← get).rest.head?

/-- Drops marks from the front, and refuses if a lone backslash comes next. -/
def drop (count : Nat) : Reading Unit := do
  let p ← get
  let size := (p.rest.take count).foldl (fun n m => n + m.size) 0
  let rest := p.rest.drop count
  set { p with rest := rest, position := p.position + size }
  if rest.head? = some .lone then refuse .badEscapeAtEnd (p.position + size)

def take? : Reading (Option Mark) := do
  let m ← next?
  drop 1
  return m

/-- Takes the given character if it comes next. -/
def accept (c : Char) : Reading Bool := do
  if (← next?) = some (.plain c) then
    drop 1
    return true
  else return false

/-- Takes at most `limit` characters of a kind. -/
def takeKind (limit : Nat) (kind : Char → Bool) : Reading (List Char) := do
  let front := ((← get).rest.take limit).takeWhile fun
    | .plain c => kind c
    | _ => false
  drop front.length
  return front.filterMap fun
    | .plain c => some c
    | _ => none

/-- Takes a name up to a closing character. -/
def takeName (terminator : Char) (what : String) : Reading String := do
  let front := (← get).rest.takeWhile (· ≠ .plain terminator)
  let name := String.join (front.map Mark.text)
  if front.contains .lone then
    refuse .badEscapeAtEnd ((← get).position + name.length - 1)
  drop front.length
  match ← take? with
  | none =>
    if name.isEmpty then refuseBack (.missingName what)
    else refuseBack (.unterminatedName terminator) name.length
  | some _ =>
    if name.isEmpty then refuseBack (.missingName what) 1
    return name

/-- The digits after the letter of a hexadecimal escape, which must be that many. -/
def takeHex (letter : Char) (count : Nat) : Reading Nat := do
  let digits ← takeKind count isHexDigit
  if digits.length ≠ count then
    let e := String.ofList ('\\' :: letter :: digits)
    refuseBack (.incompleteEscape e) e.length
  return readBase 16 digits

/-- The code point of an escape by number or name, if the letter introduces one. -/
def takeNumbered? (c : Char) : Reading (Option Nat) := do
  let isText := (← get).isText
  if c = 'x' then return some (← takeHex c 2)
  else if c = 'u' ∧ isText then return some (← takeHex c 4)
  else if c = 'U' ∧ isText then
    let digits ← takeKind 8 isHexDigit
    let e := String.ofList ('\\' :: c :: digits)
    if digits.length ≠ 8 then refuseBack (.incompleteEscape e) e.length
    let n := readBase 16 digits
    if 0x10ffff < n then refuseBack (.badEscape e) e.length
    return some n
  else if c = 'N' ∧ isText then
    if !(← accept '\x7b') then refuseBack .missingBrace
    let name ← takeName '\x7d' "character name"
    match characterNamed? name with
    | some n => return some n
    | none => refuseBack (.undefinedCharacter name) (name.length + 4)
  else return none

/-- The control character that a letter stands for. -/
def controlLetter? : Char → Option Nat
  | 'a' => some 7
  | 'b' => some 8
  | 'f' => some 12
  | 'n' => some 10
  | 'r' => some 13
  | 't' => some 9
  | 'v' => some 11
  | '\\' => some 92
  | _ => none

/-- The character class that a letter stands for, negated when it is a capital. -/
def classLetter? : Char → Option (ClassName × Bool)
  | 'd' => some (.digit, false)
  | 'D' => some (.digit, true)
  | 's' => some (.blank, false)
  | 'S' => some (.blank, true)
  | 'w' => some (.word, false)
  | 'W' => some (.word, true)
  | _ => none

def isLatinLetter (c : Char) : Bool := ('a' ≤ c && c ≤ 'z') || ('A' ≤ c && c ≤ 'Z')

/-- An escape that stands for its own character, which a letter may not. -/
def ownEscape (c : Char) : Reading Nat := do
  if isLatinLetter c || isLatinDigit c then
    refuseBack (.badEscape (String.ofList ['\\', c])) 2
  return c.toNat

def Options.caseRule (o : Options) : CaseRule :=
  if !o.ignoreCase || o.locale then .exact else if o.unicode then .every else .latin

/-- An octal number of at most three digits, the first of which has been taken. -/
def takeOctal (first : Char) : Reading Nat := do
  let digits := first :: (← takeKind 2 isOctalDigit)
  let n := readBase 8 digits
  if 0o377 < n then
    let e := String.ofList ('\\' :: digits)
    refuseBack (.octalTooLarge e) e.length
  return n

/-- An escape inside a character set. -/
def readSetEscape (o : Options) (c : Char) : Reading SetItem := do
  if let some n := controlLetter? c then return .code n
  if let some (name, negated) := classLetter? c then return .named name negated (!o.unicode)
  if let some n ← takeNumbered? c then return .code n
  if isOctalDigit c then return .code (← takeOctal c)
  return .code (← ownEscape c)

/-- Refuses a reference to a group that is not closed, or that the lookbehind around it defines. -/
def checkLookbehind (number : Nat) : Reading Unit := do
  let p ← get
  if let some before := p.lookbehind then
    if (p.widths[number]?.bind id).isNone then refuseBack .openGroup
    if before ≤ number then refuseBack .groupInsideLookbehind

/-- A reference to a closed group; the offset is that of the text that names the group. -/
def readReference (o : Options) (number offset : Nat) : Reading Node := do
  match (← get).widths[number]?.bind id with
  | none => refuseBack .openGroup offset
  | some width =>
    checkLookbehind number
    return .sameAs number o.caseRule width

/-- A reference to a group by number, or an octal escape of three digits. -/
def readDigitEscape (o : Options) (c : Char) : Reading Node := do
  let second ← takeKind 1 isLatinDigit
  let third ←
    if isOctalDigit c && second.any isOctalDigit then takeKind 1 isOctalDigit else pure []
  let e := String.ofList ('\\' :: c :: second ++ third)
  if third ≠ [] then
    let n := readBase 8 (c :: second ++ third)
    if 0o377 < n then refuseBack (.octalTooLarge e) e.length
    return .code n o.caseRule
  let number := readBase 10 (c :: second)
  if number < (← get).widths.length then readReference o number e.length
  else refuseBack (.noSuchGroup number) (e.length - 1)

/-- An escape outside a character set. -/
def readEscape (o : Options) (c : Char) : Reading Node := do
  if c = 'A' then return .anchor .textStart
  if c = 'Z' then return .anchor .textEnd
  if c = 'b' then return .anchor (.wordEdge (!o.unicode))
  if c = 'B' then return .anchor (.notWordEdge (!o.unicode))
  if let some (name, negated) := classLetter? c then
    return .set false [.named name negated (!o.unicode)] o.caseRule
  if let some n := controlLetter? c then return .code n o.caseRule
  if let some n ← takeNumbered? c then return .code n o.caseRule
  if c = '0' then
    let digits ← takeKind 2 isOctalDigit
    return .code (readBase 8 digits) o.caseRule
  if isLatinDigit c then readDigitEscape o c
  else return .code (← ownEscape c) o.caseRule

def readSetItem (o : Options) : Mark → Reading SetItem
  | .escape c => readSetEscape o c
  | .plain c => return .code c.toNat
  | .lone => return .code 92

/-- The members of a character set after its opening bracket at `start`, last first. -/
def readSet (o : Options) (start : Nat) : (fuel : Nat) → List SetItem → Reading (List SetItem)
  | 0, _ => refuse .unterminatedSet start
  | fuel + 1, items => do
    let some this ← take? | refuse .unterminatedSet start
    if this = .plain ']' ∧ items ≠ [] then return items
    let low ← readSetItem o this
    if !(← accept '-') then readSet o start fuel (low :: items)
    else
      let some that ← take? | refuse .unterminatedSet start
      if that = .plain ']' then return .code 45 :: low :: items
      let high ← readSetItem o that
      let bad := refuseBack (.badRange this.text that.text) (this.size + 1 + that.size)
      match low, high with
      | .code a, .code b => if b < a then bad else readSet o start fuel (.range a b :: items)
      | _, _ => bad

/-- The node of a character set; a set of one character is that character. -/
def setNode (o : Options) (negated : Bool) (items : List SetItem) : Node :=
  match items with
  | [.code c] => if negated then .notCode c o.caseRule else .code c o.caseRule
  | _ => .set negated items o.caseRule

/-- A count of a repetition, nothing where there are no digits. -/
def readCount? (digits : List Char) : Reading (Option Nat) := do
  if digits.isEmpty then return none
  if digitLimit < digits.length then throw (.numberTooLong digits.length)
  let n := readBase 10 digits
  if repeatLimit ≤ n then throw .repetitionTooLarge
  return some n

/-- The bounds between braces after the opening one, or nothing if the brace is a character. -/
def readBraces? : Reading (Option (Nat × Option Nat)) := do
  let before ← get
  if (← next?) = some (.plain '\x7d') then return none
  let low ← takeKind before.rest.length isLatinDigit
  let high ← if ← accept ',' then takeKind before.rest.length isLatinDigit else pure low
  if !(← accept '\x7d') then
    set before
    return none
  let least := (← readCount? low).getD 0
  let most ← readCount? high
  if most.any (· < least) then refuse .minimumAboveMaximum before.position
  return some (least, most)

/-- Applies a repetition to the last node; `start` is the place of the repetition. -/
def repeatLast (start least : Nat) (most : Option Nat) : List Node → Reading (List Node)
  | [] | .anchor _ :: _ => refuse .nothingToRepeat start
  | .repeated .. :: _ => refuse .multipleRepeat start
  | body :: before => do
    let isLeast ← accept '?'
    let isKept ← if isLeast then pure false else accept '+'
    let greed := if isLeast then Greed.least else if isKept then Greed.keep else Greed.most
    return .repeated greed least most body :: before

/-- Adds the switch of a letter, and refuses letters that do not fit the pattern or one another. -/
def addOption (add one : Options) : Reading Options := do
  if one.locale && (← get).isText then refuseBack .localeInText
  if one.unicode && !(← get).isText then refuseBack .unicodeInBytes
  let add := add.union one
  if one.meets .kinds && add.kindCount ≠ 1 then refuseBack .clashingOptions
  return add

/-- Refuses a mark where a switch or one of some characters is due. -/
def refuseOption {α : Type} (m : Mark) (due : Cause) : Reading α :=
  let cause := match m with
    | .plain c => if isLetter c.toNat then Cause.unknownOption else due
    | _ => due
  refuseBack cause m.size

/-- The letters of the switches to turn on, and the character after them. -/
def readAdded (fuel : Nat) (add one : Options) : Reading (Options × Char) := do
  let add ← addOption add one
  match fuel, ← take? with
  | fuel + 1, some (.plain c) =>
    if c = ')' ∨ c = '-' ∨ c = ':' then return (add, c)
    match Options.ofLetter? c with
    | some one => readAdded fuel add one
    | none => refuseOption (.plain c) .missingOptionsEnd
  | _, some m => refuseOption m .missingOptionsEnd
  | _, none => refuseBack .missingOptionsEnd

/-- The letters of the switches to turn off, up to the colon. -/
def readRemoved (fuel : Nat) (remove one : Options) : Reading Options := do
  if one.meets .kinds then refuseBack .cannotTurnOff
  let remove := remove.union one
  match fuel, ← take? with
  | fuel + 1, some (.plain c) =>
    if c = ':' then return remove
    match Options.ofLetter? c with
    | some one => readRemoved fuel remove one
    | none => refuseOption (.plain c) .missingColon
  | _, some m => refuseOption m .missingColon
  | _, none => refuseBack .missingColon

/-- Switches after the opening of a group: none if they hold for the whole pattern, else those that
the group turns on and off. -/
def readOptions? (first : Char) : Reading (Option (Options × Options)) := do
  let fuel := (← get).rest.length
  let (add, after) ← match Options.ofLetter? first with
    | some one => readAdded fuel {} one
    | none => pure ({}, first)
  if after = ')' then
    modify fun p => { p with options := p.options.union add }
    return none
  if add.meets .wholes then refuseBack .cannotTurnOnGlobal 1
  if after ≠ '-' then return some (add, {})
  let remove ← match ← take? with
    | none => refuseBack .missingOption
    | some m => match m with
      | .plain c => match Options.ofLetter? c with
        | some one => readRemoved fuel {} one
        | none => refuseOption m .missingOption
      | _ => refuseOption m .missingOption
  if remove.meets .wholes then refuseBack .cannotTurnOffGlobal 1
  if add.meets remove then refuseBack .turnedOnAndOff 1
  return some (add, remove)

/-- Opens a group and gives its number. -/
def openGroup (name : Option String) : Reading Nat := do
  let p ← get
  let number := p.widths.length
  set { p with widths := p.widths ++ [none] }
  if let some name := name then
    if let some earlier := p.names.lookup name then
      refuseBack (.groupNameTaken name number earlier) (name.length + 1)
    modify fun p => { p with names := (name, number) :: p.names }
  return number

def closeGroup (number : Nat) (body : Node) : Reading Unit :=
  modify fun p => { p with widths := p.widths.set number (some body.width) }

/-- Skips a comment up to its closing parenthesis; the comment starts at `start`. -/
def skipComment (start : Nat) : (fuel : Nat) → Reading Unit
  | 0 => refuse .unterminatedComment start
  | fuel + 1 => do
    match ← next? with
    | none => refuse .unterminatedComment start
    | some m =>
      drop 1
      if m ≠ .plain ')' then skipComment start fuel

/-- Skips the rest of a line. -/
def skipLine : (fuel : Nat) → Reading Unit
  | 0 => return ()
  | fuel + 1 => do
    match ← take? with
    | none | some (.plain '\n') => return ()
    | some _ => skipLine fuel

/-- The group that a condition names. -/
def readCondition : Reading Nat := do
  let name ← takeName ')' "group name"
  let offset := name.length + 1
  let number ←
    if isName name.toList then
      match (← get).names.lookup name with
      | some number => pure number
      | none => refuseBack (.unknownGroupName name) offset
    else
      match Floating.readInteger? name.toList with
      | none => refuseBack (.badGroupName name) offset
      | some n =>
        if n < 0 then refuseBack (.badGroupName name) offset
        else if n = 0 then refuseBack .badGroupNumber offset
        else if 1073741823 ≤ n then refuseBack (.noSuchGroup n.toNat) offset
        else
          modify fun p =>
            if (p.asked.lookup n.toNat).isSome then p
            else { p with asked := p.asked ++ [(n.toNat, p.position - offset)] }
          pure n.toNat
  checkLookbehind number
  return number

/-- Ends a group that was opened at `start`. -/
def endGroup (start : Nat) : Reading Unit := do
  if !(← accept ')') then refuse .unterminatedGroup start

/-- How a group goes on after its opening. -/
inductive Opening where
  | body (capture atomic : Bool) (name : Option String) (add remove : Options)
  | reference (number offset : Nat)
  | comment
  | look (behind negated : Bool)
  | condition
  | wholeOptions

/-- Reads what follows the opening parenthesis of a group, up to its body. -/
def readOpening : Reading Opening := do
  if !(← accept '?') then return .body true false none {} {}
  let some this ← take? | refuseBack .unexpectedEnd
  let unknown := refuseBack (.unknownExtension this.text) (this.size + 1)
  let .plain c := this | unknown
  if c = 'P' then
    if ← accept '<' then
      let name ← takeName '>' "group name"
      if !isName name.toList then refuseBack (.badGroupName name) (name.length + 1)
      return .body true false (some name) {} {}
    if ← accept '=' then
      let name ← takeName ')' "group name"
      if !isName name.toList then refuseBack (.badGroupName name) (name.length + 1)
      match (← get).names.lookup name with
      | none => refuseBack (.unknownGroupName name) (name.length + 1)
      | some number => return .reference number (name.length + 1)
    match ← take? with
    | none => refuseBack .unexpectedEnd
    | some m => refuseBack (.unknownExtension ("P" ++ m.text)) (m.size + 2)
  else if c = ':' then return .body false false none {} {}
  else if c = '#' then return .comment
  else if c = '=' ∨ c = '!' then return .look false (c = '!')
  else if c = '<' then
    match ← take? with
    | none => refuseBack .unexpectedEnd
    | some (.plain '=') => return .look true false
    | some (.plain '!') => return .look true true
    | some m => refuseBack (.unknownExtension ("<" ++ m.text)) (m.size + 2)
  else if c = '(' then return .condition
  else if c = '>' then return .body false true none {} {}
  else if (Options.ofLetter? c).isSome || c = '-' then
    match ← readOptions? c with
    | none => return .wholeOptions
    | some (add, remove) => return .body false false none add remove
  else unknown

mutual

/-- Branches with bars between them. -/
def readChoice : (fuel : Nat) → Options → (nested : Bool) → Reading Node
  | 0, _, _ => refuseBack .unterminatedGroup
  | fuel + 1, o, nested => do
    let head ← readSequence fuel o nested (!nested) []
    let branches ← readBranches fuel o nested [head]
    return match branches with
      | [branch] => branch
      | _ => .choice branches.reverse

/-- The branches after the first, added in front of the ones before. -/
def readBranches : (fuel : Nat) → Options → (nested : Bool) → List Node → Reading (List Node)
  | 0, _, _, branches => return branches
  | fuel + 1, o, nested, branches => do
    if ← accept '|' then
      let o ← if nested then pure o else return ← readWholeBranch fuel branches
      let branch ← readSequence fuel o nested false []
      readBranches fuel o nested (branch :: branches)
    else return branches

/-- A further branch of the whole pattern, which stands under the options of the whole. -/
def readWholeBranch : (fuel : Nat) → List Node → Reading (List Node)
  | 0, branches => return branches
  | fuel + 1, branches => do
    let o := (← get).inForce
    let branch ← readSequence fuel o false false []
    readBranches fuel o false (branch :: branches)

/-- Nodes one after the other, added in front of the ones before. `first` holds in the first branch
of the whole pattern, where options for the whole may stand. -/
def readSequence : (fuel : Nat) → Options → (nested first : Bool) → List Node → Reading Node
  | 0, _, _, _, nodes => return .sequence nodes.reverse
  | fuel + 1, o, nested, first, nodes => do
    let start := (← get).position
    let plenty := (← get).rest.length
    let go (node : Node) : Reading Node := readSequence fuel o nested first (node :: nodes)
    match ← next? with
    | none | some (.plain '|') | some (.plain ')') => return .sequence nodes.reverse
    | some .lone => refuse .badEscapeAtEnd start
    | some (.escape c) =>
      drop 1
      -- An escaped blank is a character, whatever the options.
      go (← readEscape o c)
    | some (.plain c) =>
      drop 1
      if o.verbose && (c = ' ' ∨ (9 ≤ c.toNat ∧ c.toNat ≤ 13)) then
        readSequence fuel o nested first nodes
      else if o.verbose && c = '#' then
        skipLine plenty
        readSequence fuel o nested first nodes
      else if c = '[' then
        let negated ← accept '^'
        go (setNode o negated (← readSet o start (plenty + 1) []).reverse)
      else if c = '?' then
        readSequence fuel o nested first (← repeatLast start 0 (some 1) nodes)
      else if c = '*' then
        readSequence fuel o nested first (← repeatLast start 0 none nodes)
      else if c = '+' then
        readSequence fuel o nested first (← repeatLast start 1 none nodes)
      else if c = '\x7b' then
        match ← readBraces? with
        | none => go (.code c.toNat o.caseRule)
        | some (least, most) =>
          readSequence fuel o nested first (← repeatLast start least most nodes)
      else if c = '.' then go (.any o.dotAll)
      else if c = '^' then go (.anchor (if o.multiline then .lineStart else .textStart))
      else if c = '$' then go (.anchor (if o.multiline then .lineEnd else .lastLineEnd))
      else if c = '(' then
        match ← readOpening with
        | .comment =>
          skipComment start plenty
          readSequence fuel o nested first nodes
        | .wholeOptions =>
          if !first || !nodes.isEmpty then refuse .optionsNotAtStart start
          readSequence fuel (← get).inForce nested first nodes
        | .reference number offset => go (← readReference o number offset)
        | .look behind negated =>
          let outer := (← get).lookbehind
          if behind && outer.isNone then
            modify fun p => { p with lookbehind := some p.widths.length }
          let body ← readChoice fuel o true
          if behind then modify fun p => { p with lookbehind := outer }
          endGroup start
          go (.look behind negated body)
        | .condition =>
          let number ← readCondition
          let yes ← readSequence fuel o true false []
          let no ← if ← accept '|' then some <$> readSequence fuel o true false [] else pure none
          if no.isSome && (← next?) = some (.plain '|') then refuseBack .tooManyBranches
          endGroup start
          go (.ifGroup number yes no)
        | .body capture isAtomic name add remove =>
          let number ← if capture then some <$> openGroup name else pure none
          let body ← readChoice fuel (o.inside add remove) true
          endGroup start
          match number with
          | some number =>
            closeGroup number body
            go (.group (some number) body)
          | none => go (if isAtomic then .atomic body else .group none body)
      else go (.code c.toNat o.caseRule)

end

mutual

/-- What only the finished tree shows to be wrong: a lookbehind without a fixed width, or a
repetition in a template. The first fault from the left counts. -/
def Node.fault? (template : Bool) : Node → Option Cause
  | .sequence parts => anyFault? template parts
  | .choice branches => anyFault? template branches
  | .repeated greed _ _ body =>
    if template then
      some (.repeatInTemplate (match greed with
        | .most => "MAX_REPEAT"
        | .least => "MIN_REPEAT"
        | .keep => "POSSESSIVE_REPEAT"))
    else body.fault? template
  | .group _ body | .atomic body => body.fault? template
  | .look behind _ body =>
    let (low, high) := body.width
    if behind && repeatLimit < low then some .farLookbehind
    else if behind && low ≠ high then some .variableLookbehind
    else body.fault? template
  | .ifGroup _ yes none => yes.fault? template
  | .ifGroup _ yes (some no) => (yes.fault? template).or (no.fault? template)
  | _ => none

def anyFault? (template : Bool) : List Node → Option Cause
  | [] => none
  | n :: rest => (n.fault? template).or (anyFault? template rest)

end

/-- Settles the switch for the kind of text. -/
def settle (isText : Bool) (o : Options) : Except Complaint Options :=
  if isText then
    if o.locale then .error .localeOption
    else if !o.latin then .ok { o with unicode := true }
    else if o.unicode then .error .latinAndUnicode
    else .ok o
  else if o.unicode then .error .unicodeOption
  else if o.latin && o.locale then .error .latinAndLocale
  else .ok o

/-- Reads a whole pattern: its tree and the options it ends up with. -/
def readPattern : Reading (Node × Options) := do
  let p ← get
  if p.rest.head? = some .lone then refuse .badEscapeAtEnd 0
  let node ← readChoice (2 * p.rest.length + 4) p.inForce false
  let p ← get
  let options ← settle p.isText p.options
  if !p.rest.isEmpty then refuseBack .unbalanced
  for (number, position) in p.asked do
    if p.widths.length ≤ number then refuse (.noSuchGroup number) position
  if let some cause := node.fault? options.template then throw (.fault cause none)
  return (node, options)

end DataShape.Pattern
