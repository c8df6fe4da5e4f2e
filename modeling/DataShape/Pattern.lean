import DataShape.Pattern.Reader
import DataShape.Pattern.Search

/-!
# Search patterns

A pattern keeps the text it was read from, its options and its tree. Two patterns are equal when
they were read from the same text under the same options.
-/

namespace DataShape

namespace Pattern

/-- What a pattern is read from, which is also what it may be searched in. -/
inductive Source where
  | text (s : String)
  | bytes (b : List UInt8)
deriving DecidableEq

def Source.isText : Source → Bool
  | .text _ => true
  | .bytes _ => false

def Source.chars : Source → List Char
  | .text s => s.toList
  | .bytes b => b.map fun x => Char.ofNat x.toNat

end Pattern

structure Pattern where
  source : Pattern.Source
  options : Pattern.Options
  node : Pattern.Node

namespace Pattern

/-- Reads a pattern under options given beside the text. -/
def read (source : Source) (options : Options := {}) : Except Complaint Pattern :=
  let start : Progress :=
    { rest := marks source.chars, isText := source.isText, options := options }
  (readPattern.run start).map fun ((node, options), _) => ⟨source, options, node⟩

def same (a b : Pattern) : Bool := a.source == b.source && a.options == b.options

/-- Whether the pattern matches somewhere in a text. -/
def occursIn (p : Pattern) (s : String) : Bool :=
  p.node.occursIn (s.toList.map Char.toNat).toArray

end Pattern

end DataShape
