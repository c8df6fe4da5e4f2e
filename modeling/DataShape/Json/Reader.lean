import DataShape.Number.Numeral
import DataShape.Value.Equality

/-!
# Reading JSON

JSON text as a value. Beside the grammar the words `NaN`, `Infinity` and `-Infinity` are numbers. Of
members with one name the last value stays, in the place of the first. A failure is reported with
the number of characters that were left, from which the place in the text follows. A text that names
half of a pair without its partner stands for no characters and is not read.
-/

namespace DataShape.Json

open Text

/-- What is wrong at a place of a text. -/
inductive Issue where
  | expectedValue
  | expectedName
  | expectedColon
  | expectedComma
  | extraData
  | controlCharacter
  | badEscape
  | badCode
  | unterminated
  | byteOrderMark

def Issue.message : Issue → String
  | .expectedValue => "Expecting value"
  | .expectedName => "Expecting property name enclosed in double quotes"
  | .expectedColon => "Expecting ':' delimiter"
  | .expectedComma => "Expecting ',' delimiter"
  | .extraData => "Extra data"
  | .controlCharacter => "Invalid control character at"
  | .badEscape => "Invalid \\escape"
  | .badCode => "Invalid \\uXXXX escape"
  | .unterminated => "Unterminated string starting at"
  | .byteOrderMark => "Unexpected UTF-8 BOM (decode using utf-8-sig)"

/-- Why a text gives no value. -/
inductive Problem where
  /-- An issue at the place that so many characters follow. -/
  | malformed (issue : Issue) (left : Nat)
  | tooManyDigits (count : Nat)
  /-- Half of a pair without its partner. -/
  | loneHalf

/-- An issue with its place: line and column from one, offset from zero. -/
def placed (issue : Issue) (offset : Nat) (text : List Char) : String :=
  let before := text.take offset
  let line := before.count '\n' + 1
  let column := (before.reverse.takeWhile (· ≠ '\n')).length + 1
  issue.message ++ ": line " ++ toString line ++ " column " ++ toString column ++ " (char "
    ++ toString offset ++ ")"

def isBlank (c : Char) : Bool := c = ' ' || c = '\t' || c = '\n' || c = '\r'

def skip (cs : List Char) : List Char := cs.dropWhile isBlank

/-- What follows a word at the front of a text. -/
def after? (word : String) (cs : List Char) : Option (List Char) :=
  if word.toList.isPrefixOf cs then some (cs.drop word.length) else none

/-- The character of a one-letter escape. -/
def escape? : Char → Option Char
  | '"' => some '"'
  | '\\' => some '\\'
  | '/' => some '/'
  | 'b' => some '\x08'
  | 'f' => some '\x0c'
  | 'n' => some '\n'
  | 'r' => some '\r'
  | 't' => some '\t'
  | _ => none

/-- The codes of a text up to its closing quote, where `opening` characters begin with the opening
quote. A code of four digits must not be the last thing in the document. -/
def readCodes (opening : Nat) : List Char → Except Problem (List Nat × List Char)
  | [] | ['\\'] => .error (.malformed .unterminated opening)
  | '"' :: rest => .ok ([], rest)
  | '\\' :: 'u' :: a :: b :: c :: d :: rest =>
    match hexDigit? a, hexDigit? b, hexDigit? c, hexDigit? d with
    | some a, some b, some c, some d =>
      if rest.isEmpty then .error (.malformed .badCode 5)
      else (readCodes opening rest).map fun r => (valueOf 16 [a, b, c, d] :: r.1, r.2)
    | _, _, _, _ => .error (.malformed .badCode (rest.length + 5))
  | '\\' :: 'u' :: rest => .error (.malformed .badCode (rest.length + 1))
  | '\\' :: c :: rest =>
    match escape? c with
    | some c => (readCodes opening rest).map fun r => (c.toNat :: r.1, r.2)
    | none => .error (.malformed .badEscape (rest.length + 2))
  | c :: rest =>
    if c < ' ' then .error (.malformed .controlCharacter (rest.length + 1))
    else (readCodes opening rest).map fun r => (c.toNat :: r.1, r.2)

def isHighHalf (n : Nat) : Bool := 0xd800 ≤ n && n < 0xdc00

def isLowHalf (n : Nat) : Bool := 0xdc00 ≤ n && n < 0xe000

/-- Whether a code is half of a pair and so no character. -/
def isHalf (n : Nat) : Bool := isHighHalf n || isLowHalf n

/-- The characters of codes: a high half and a low half make one character. -/
def characters? : List Nat → Option (List Char)
  | [] => some []
  | [n] => if isHalf n then none else some [Char.ofNat n]
  | n :: m :: rest =>
    if isHighHalf n && isLowHalf m then
      (characters? rest).map
        (Char.ofNat (0x10000 + (n - 0xd800) * 0x400 + (m - 0xdc00)) :: ·)
    else if isHalf n then none
    else (characters? (m :: rest)).map (Char.ofNat n :: ·)

/-- A text after its opening quote. -/
def readText (cs : List Char) : Except Problem (String × List Char) := do
  let (codes, rest) ← readCodes (cs.length + 1) cs
  match characters? codes with
  | some text => .ok (String.ofList text, rest)
  | none => .error .loneHalf

/-- The exponent at the front of a text, if there is a whole one. -/
def readExponent? : List Char → Option (Int × List Char)
  | [] => none
  | e :: rest =>
    if e = 'e' ∨ e = 'E' then
      let (negative, rest) := Numeral.sign rest
      let (digits, rest) := Numeral.spanDigits rest
      if digits.isEmpty then none
      else
        let n : Int := readBase 10 digits
        some (if negative then -n else n, rest)
    else none

/-- The fraction at the front of a text: a point and digits, or nothing. -/
def readFraction : List Char → List Char × List Char
  | '.' :: rest =>
    match Numeral.spanDigits rest with
    | ([], _) => ([], '.' :: rest)
    | split => split
  | cs => ([], cs)

/-- The whole part of a number: a zero alone, or digits that do not start with one. -/
def readWhole : List Char → List Char × List Char
  | '0' :: rest => (['0'], rest)
  | cs => Numeral.spanDigits cs

/-- A number, which is an integer unless it has a fraction or an exponent. -/
def readNumber (cs : List Char) : Except Problem (Value × List Char) :=
  let (negative, body) := match cs with
    | '-' :: rest => (true, rest)
    | _ => (false, cs)
  let (whole, rest) := readWhole body
  let (fraction, rest) := readFraction rest
  let exponent? := readExponent? rest
  if whole.isEmpty then .error (.malformed .expectedValue cs.length)
  else if fraction.isEmpty && exponent?.isNone then
    if digitLimit < whole.length then .error (.tooManyDigits whole.length)
    else
      let n : Int := readBase 10 whole
      .ok (.int (if negative then -n else n), rest)
  else
    let (exponent, rest) := exponent?.getD (0, rest)
    let numeral : Numeral := ⟨negative, readBase 10 (whole ++ fraction), exponent - fraction.length⟩
    .ok (.float (.ofNumeral .double numeral), rest)

/-- The words that stand for values. -/
def words : List (String × Value) :=
  [("null", .null), ("true", .bool true), ("false", .bool false), ("NaN", .float .nan),
    ("Infinity", .float (.infinite false)), ("-Infinity", .float (.infinite true))]

/-- A word or a number. -/
def readAtom (cs : List Char) : Except Problem (Value × List Char) :=
  match words.findSome? fun (word, v) => (after? word cs).map fun rest => (v, rest) with
  | some r => .ok r
  | none => readNumber cs

/-- The name of a member with its colon. -/
def readName : List Char → Except Problem (String × List Char)
  | '"' :: rest => do
    let (name, rest) ← readText rest
    match skip rest with
    | ':' :: rest => .ok (name, skip rest)
    | rest => .error (.malformed .expectedColon rest.length)
  | cs => .error (.malformed .expectedName cs.length)

mutual

/-- A value at the front of a text, within a bound on the steps. -/
def readValue : Nat → List Char → Except Problem (Value × List Char)
  | 0, cs => .error (.malformed .expectedValue cs.length)
  | _ + 1, '"' :: rest => (readText rest).map fun r => (.text r.1, r.2)
  | bound + 1, '[' :: rest =>
    match skip rest with
    | ']' :: rest => .ok (.list [], rest)
    | rest => (readItems bound rest).map fun r => (.list r.1, r.2)
  | bound + 1, '\x7b' :: rest =>
    match skip rest with
    | '\x7d' :: rest => .ok (.dict [], rest)
    | rest => (readMembers bound rest).map fun r => (.dict (Entries.ofList r.1), r.2)
  | _ + 1, cs => readAtom cs

/-- The items of an array that has some, with the closing bracket. -/
def readItems : Nat → List Char → Except Problem (List Value × List Char)
  | 0, cs => .error (.malformed .expectedValue cs.length)
  | bound + 1, cs => do
    let (v, rest) ← readValue bound cs
    match skip rest with
    | ']' :: rest => .ok ([v], rest)
    | ',' :: rest => (readItems bound (skip rest)).map fun r => (v :: r.1, r.2)
    | rest => .error (.malformed .expectedComma rest.length)

/-- The members of an object that has some, with the closing brace. -/
def readMembers : Nat → List Char → Except Problem (Entries × List Char)
  | 0, cs => .error (.malformed .expectedValue cs.length)
  | bound + 1, cs => do
    let (name, rest) ← readName cs
    let (v, rest) ← readValue bound rest
    match skip rest with
    | '\x7d' :: rest => .ok ([(.text name, v)], rest)
    | ',' :: rest => (readMembers bound (skip rest)).map fun r => ((.text name, v) :: r.1, r.2)
    | rest => .error (.malformed .expectedComma rest.length)

end

/-- A whole text as one value between blanks. -/
def read (cs : List Char) : Except Problem Value := do
  if cs.head? = some '\ufeff' then throw (.malformed .byteOrderMark cs.length)
  let (v, rest) ← readValue (2 * cs.length + 2) (skip cs)
  match skip rest with
  | [] => .ok v
  | rest => .error (.malformed .extraData rest.length)

/-- What is reported about a text. -/
def Problem.message (text : List Char) : Problem → String
  | .malformed issue left => placed issue (text.length - left) text
  | .tooManyDigits count => Text.tooManyDigits count
  | .loneHalf => "half of a pair is no character"

end DataShape.Json
