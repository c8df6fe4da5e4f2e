import DataShape.Pattern.Node

/-!
# Searching

Matching by trying alternatives in order and going back on failure. `Node.run` hands each way of
matching a node to a continuation and returns the first place where the continuation succeeds, so
"go back" is the next alternative of an `Option`. A repetition gets as many rounds as its least
count and the characters that are left allow, since a round that consumes nothing is the last one.
-/

namespace DataShape.Pattern

/-- Where a match stands: the place in the text and the spans of the groups closed so far. -/
structure Place where
  position : Nat
  groups : List (Nat × Nat × Nat) := []

def Place.group? (p : Place) (number : Nat) : Option (Nat × Nat) := p.groups.lookup number

abbrev Continuation := Place → Option Place

/-- Rounds of a greedy or lazy repetition; `last` is where the previous free round began. -/
def rounds (greedy : Bool) (body : Place → Continuation → Option Place) (least : Nat)
    (most : Option Nat) (k : Continuation) :
    (fuel count : Nat) → (last : Option Nat) → Place → Option Place
  | 0, _, _, p => k p
  | fuel + 1, count, last, p =>
    let again (last : Option Nat) : Option Place :=
      body p fun q => rounds greedy body least most k fuel (count + 1) last q
    if count < least then again last
    else
      let free := most.all (count < ·) && last != some p.position
      if greedy then (if free then again (some p.position) else none) <|> k p
      else k p <|> (if free then again (some p.position) else none)

/-- Rounds of a repetition that gives nothing back; each takes the first match of the body. -/
def keptRounds (body : Place → Continuation → Option Place) (least : Nat) (most : Option Nat) :
    (fuel count : Nat) → Place → Option Place
  | 0, _, p => some p
  | fuel + 1, count, p =>
    if count < least then (body p some).bind (keptRounds body least most fuel (count + 1))
    else if most.all (count < ·) then
      match body p some with
      | some q =>
        if q.position = p.position then some q
        else keptRounds body least most fuel (count + 1) q
      | none => some p
    else some p

variable (text : Array Nat)

def isWordAt (latin : Bool) (position : Nat) : Bool :=
  text[position]?.any (ClassName.word.holds latin)

/-- Whether the characters on the two sides of a place differ in being part of a word. -/
def isWordEdge (latin : Bool) (position : Nat) : Bool :=
  (position ≠ 0 && isWordAt text latin (position - 1)) != isWordAt text latin position

def Anchor.holds (position : Nat) : Anchor → Bool
  | .textStart => position = 0
  | .textEnd => position = text.size
  | .lineStart => position = 0 || text[position - 1]? = some 10
  | .lineEnd => position = text.size || text[position]? = some 10
  | .lastLineEnd =>
    position = text.size || (position + 1 = text.size && text[position]? = some 10)
  | .wordEdge latin => text.size ≠ 0 && isWordEdge text latin position
  | .notWordEdge latin => text.size ≠ 0 && !isWordEdge text latin position

/-- One character that passes a test. -/
def step (test : Nat → Bool) (p : Place) (k : Continuation) : Option Place :=
  match text[p.position]? with
  | some c => if test c then k { p with position := p.position + 1 } else none
  | none => none

/-- Whether the characters from two places on agree, for a number of characters. -/
def agreeFrom (rule : CaseRule) (a b count : Nat) : Bool :=
  (List.range count).all fun i =>
    match text[a + i]?, text[b + i]? with
    | some x, some y => rule.lower x == rule.lower y
    | _, _ => false

mutual

def Node.run : Node → Place → Continuation → Option Place
  | .code c rule, p, k => step text (rule.agree c) p k
  | .notCode c rule, p, k => step text (fun d => !rule.agree c d) p k
  | .any newline, p, k => step text (fun d => newline || d != 10) p k
  | .set negated items rule, p, k =>
    step text (fun d => (items.any (SetItem.holds rule d)) != negated) p k
  | .anchor a, p, k => if a.holds text p.position then k p else none
  | .sequence parts, p, k => runAll parts p k
  | .choice branches, p, k => runAny branches p k
  | .repeated greed least most body, p, k =>
    let fuel := least + (text.size - p.position) + 2
    match greed with
    | .most => rounds true body.run least most k fuel 0 none p
    | .least => rounds false body.run least most k fuel 0 none p
    | .keep => (keptRounds body.run least most fuel 0 p).bind k
  | .group none body, p, k => body.run p k
  | .group (some number) body, p, k =>
    body.run p fun q => k { q with groups := (number, p.position, q.position) :: q.groups }
  | .sameAs number rule _, p, k =>
    match p.group? number with
    | none => none
    | some (start, stop) =>
      if agreeFrom text rule start p.position (stop - start) then
        k { p with position := p.position + (stop - start) }
      else none
  | .look behind negated body, p, k =>
    let width := if behind then body.width.1 else 0
    let found :=
      if p.position < width then none
      else body.run { p with position := p.position - width } some
    match found with
    | some q => if negated then none else k { q with position := p.position }
    | none => if negated then k p else none
  | .atomic body, p, k => (body.run p some).bind k
  | .ifGroup number yes no, p, k =>
    if (p.group? number).isSome then yes.run p k
    else match no with
      | none => k p
      | some no => no.run p k

def runAll : List Node → Place → Continuation → Option Place
  | [], p, k => k p
  | n :: rest, p, k => n.run p fun q => runAll rest q k

def runAny : List Node → Place → Continuation → Option Place
  | [], _, _ => none
  | n :: rest, p, k => n.run p k <|> runAny rest p k

end

/-- Whether the node matches somewhere in the text. -/
def Node.occursIn (n : Node) : Bool :=
  (List.range (text.size + 1)).any fun start => (n.run text ⟨start, []⟩ some).isSome

end DataShape.Pattern
