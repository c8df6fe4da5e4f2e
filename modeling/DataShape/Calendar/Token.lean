import DataShape.Text.Blank
import DataShape.Text.Category

/-!
# Words and numbers of a date text

A loosely written date falls into words, numbers, single blanks and single signs. A point may stand
inside a word or a number; whether it belongs to it is decided at the end of the piece, and where it
does not, the piece is split at its points.
-/

namespace DataShape.Calendar

open Text

/-- What a piece is made of so far. A point makes it doubtful. -/
inductive Piece where
  | word
  | number
  | pointedWord
  | pointedNumber
deriving DecidableEq

/-- A piece that is being read: its characters backwards, and whether it went on after a letter. -/
structure OpenPiece where
  kind : Piece
  reversed : List Char
  hasLetters : Bool := false

namespace OpenPiece

def isWordChar (c : Char) : Bool := isLetter c.toNat

def isNumberChar (c : Char) : Bool := isDecimalDigit c.toNat

def endsWithPoint (p : OpenPiece) : Bool := p.reversed.head? = some '.'

/-- The kind of a piece that goes on with a character, if the character belongs to it. -/
def next? (p : OpenPiece) (c : Char) : Option Piece :=
  match p.kind with
  | .word =>
    if isWordChar c then some .word else if c = '.' then some .pointedWord else none
  | .number =>
    if isNumberChar c then some .number
    else if c = '.' ∨ (c = ',' ∧ 2 ≤ p.reversed.length) then some .pointedNumber
    else none
  | .pointedWord =>
    if c = '.' ∨ isWordChar c then some .pointedWord
    else if isNumberChar c ∧ p.endsWithPoint then some .pointedNumber
    else none
  | .pointedNumber =>
    if c = '.' ∨ isNumberChar c then some .pointedNumber
    else if isWordChar c ∧ p.endsWithPoint then some .pointedWord
    else none

/-- Whether a further character is read while letters are expected. -/
def expectsLetters (p : OpenPiece) : Bool := p.kind = .word || p.kind = .pointedWord

def isSplit (c : Char) : Bool := c = '.' || c = ','

/-- A text cut before and after each point and comma. -/
def splitPoints (cs : List Char) : List (List Char) :=
  let parts := cs.splitOnP isSplit
  let signs := (cs.filter isSplit).map fun c => [c]
  let rec weave : List (List Char) → List (List Char) → List (List Char)
    | part :: parts, sign :: signs => part :: sign :: weave parts signs
    | parts, [] => parts
    | [], signs => signs
  (weave parts signs).filter fun part => !part.isEmpty

/-- The tokens of a finished piece, at whose end a further character may have been met. -/
def close (p : OpenPiece) (isMet : Bool) : List String :=
  let cs := p.reversed.reverse
  let hasLetters := p.hasLetters || (isMet && p.expectsLetters)
  let isPointed := p.kind = .pointedWord || p.kind = .pointedNumber
  let isDoubtful := hasLetters || 1 < cs.count '.' || p.reversed.head?.any isSplit
  if isPointed && isDoubtful then (splitPoints cs).map String.ofList
  else if p.kind = .pointedNumber && cs.count '.' = 0 then
    [String.ofList (cs.map fun c => if c = ',' then '.' else c)]
  else [String.ofList cs]

end OpenPiece

/-- What a character starts: a piece, or a token of its own. Every blank counts as a space. -/
def startPiece (c : Char) : Option OpenPiece × List String :=
  if OpenPiece.isWordChar c then (some ⟨.word, [c], false⟩, [])
  else if OpenPiece.isNumberChar c then (some ⟨.number, [c], false⟩, [])
  else if isBlank c then (none, [" "])
  else (none, [String.ofList [c]])

/-- The tokens of a text that goes on from an open piece. -/
def tokensAfter (piece? : Option OpenPiece) : List Char → List String
  | [] => piece?.elim [] fun p => p.close false
  | c :: rest =>
    match piece? with
    | none =>
      let (next?, tokens) := startPiece c
      tokens ++ tokensAfter next? rest
    | some p =>
      match p.next? c with
      | some kind =>
        tokensAfter (some ⟨kind, c :: p.reversed, p.hasLetters || p.expectsLetters⟩) rest
      | none =>
        let (next?, tokens) := startPiece c
        p.close true ++ tokens ++ tokensAfter next? rest

/-- The tokens of a text. A null character counts for nothing. -/
def tokens (cs : List Char) : List String := tokensAfter none (cs.filter (· ≠ '\x00'))

end DataShape.Calendar
