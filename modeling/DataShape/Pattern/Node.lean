import DataShape.Text.Blank
import DataShape.Text.Case
import DataShape.Text.Category

/-!
# Pattern nodes

The tree of a search pattern. Characters are code points, so that a pattern may name one that no
text holds. Every node carries the options that were in force where it stood, and nothing else
about a pattern is needed to match it.
-/

namespace DataShape.Pattern

/-- How a letter is compared: as it is, or without case in the Latin alphabet or in every script. -/
inductive CaseRule where
  | exact
  | latin
  | every
deriving DecidableEq

inductive ClassName where
  | digit
  | blank
  | word
deriving DecidableEq

/-- A member of a character set. -/
inductive SetItem where
  | code (c : Nat)
  | range (low high : Nat)
  | named (name : ClassName) (negated latin : Bool)
deriving DecidableEq

/-- A condition on a place between characters. -/
inductive Anchor where
  | textStart
  | textEnd
  | lineStart
  | lineEnd
  /-- The end of the text, or the place before a newline that ends it. -/
  | lastLineEnd
  | wordEdge (latin : Bool)
  | notWordEdge (latin : Bool)
deriving DecidableEq

inductive Greed where
  | most
  | least
  /-- As much as possible, never given back. -/
  | keep
deriving DecidableEq

inductive Node where
  | code (c : Nat) (rule : CaseRule)
  | notCode (c : Nat) (rule : CaseRule)
  | any (newline : Bool)
  | set (negated : Bool) (items : List SetItem) (rule : CaseRule)
  | anchor (a : Anchor)
  | sequence (parts : List Node)
  | choice (branches : List Node)
  | repeated (greed : Greed) (least : Nat) (most : Option Nat) (body : Node)
  | group (number : Option Nat) (body : Node)
  /-- The text of an earlier group, whose least and greatest width come along. -/
  | sameAs (number : Nat) (rule : CaseRule) (width : Nat × Nat)
  | look (behind negated : Bool) (body : Node)
  | atomic (body : Node)
  | ifGroup (number : Nat) (yes : Node) (no : Option Node)

/-- What no width exceeds. -/
def widthLimit : Nat := Nat.pow 2 64

/-- What stands for "any number of times" and must not be written as a number. -/
def repeatLimit : Nat := 4294967295

def capWidth (w : Nat × Nat) : Nat × Nat := (min w.1 widthLimit, min w.2 widthLimit)

mutual

/-- The least and greatest number of characters that a node can take up. -/
def Node.width : Node → Nat × Nat
  | .code .. | .notCode .. | .any _ | .set .. => (1, 1)
  | .anchor _ | .look .. => (0, 0)
  | .sequence parts => capWidth (sumWidths parts)
  | .choice branches => capWidth (spanWidths branches)
  | .repeated _ least most body =>
    let (low, high) := body.width
    let most := most.getD repeatLimit
    capWidth (low * least, if most = repeatLimit ∧ high ≠ 0 then widthLimit else high * most)
  | .group _ body | .atomic body => body.width
  | .sameAs _ _ width => width
  | .ifGroup _ yes none => (0, yes.width.2)
  | .ifGroup _ yes (some no) =>
    let (a, b) := yes.width
    let (c, d) := no.width
    (min a c, max b d)

def sumWidths : List Node → Nat × Nat
  | [] => (0, 0)
  | n :: rest =>
    let (a, b) := n.width
    let (c, d) := sumWidths rest
    (a + c, b + d)

def spanWidths : List Node → Nat × Nat
  | [] => (widthLimit, 0)
  | n :: rest =>
    let (a, b) := n.width
    let (c, d) := spanWidths rest
    (min a c, max b d)

end

/-- Whether a code point belongs to a named class. -/
def ClassName.holds (name : ClassName) (latin : Bool) (c : Nat) : Bool :=
  match name with
  | .digit => if latin then 48 ≤ c && c ≤ 57 else Text.isDecimalDigit c
  | .blank =>
    if latin then (9 ≤ c && c ≤ 13) || c == 32 else c < 0x110000 && Text.isBlank (Char.ofNat c)
  | .word =>
    c == 95 || if latin then c < 128 && Text.isAlphanumeric c else Text.isAlphanumeric c

def CaseRule.lower : CaseRule → Nat → Nat
  | .exact, c => c
  | .latin, c => Text.lowerCaseLatin c
  | .every, c => Text.lowerCase c

/-- Whether two code points agree under the rule. -/
def CaseRule.agree (rule : CaseRule) (a b : Nat) : Bool :=
  match rule with
  | .exact => a == b
  | .latin => Text.lowerCaseLatin a == Text.lowerCaseLatin b
  | .every => Text.foldCase a == Text.foldCase b

/-- The code points that agree with `c` under the rule. -/
def CaseRule.variants (rule : CaseRule) (c : Nat) : List Nat :=
  match rule with
  | .exact => [c]
  | .latin =>
    let lower := Text.lowerCaseLatin c
    if 97 ≤ lower ∧ lower ≤ 122 then [lower, lower - 32] else [c]
  | .every => Text.caseVariants c

def SetItem.holds (rule : CaseRule) (c : Nat) : SetItem → Bool
  | .code d => rule.agree d c
  | .range low high => (rule.variants c).any fun v => low ≤ v && v ≤ high
  | .named name negated latin => name.holds latin (rule.lower c) != negated

end DataShape.Pattern
