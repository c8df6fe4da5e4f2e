import DataShape.Value.Basic

/-!
# Equality of values

Numbers are equal when they denote the same number, whatever their class, and truth values count as
the numbers zero and one; sequences are equal kind by kind and item by item, mappings key by key.
Keys are compared exactly. A comparison of contents lets a machine number decide in which format two
numbers meet, and lets a machine time meet the plain values that it stands for.
-/

namespace DataShape

/-- A real number or an infinite one. -/
inductive Amount where
  | rational (q : Rat)
  | infinite (negative : Bool)
deriving DecidableEq

def Floating.amount? : Floating → Option Amount
  | .infinite negative => some (.infinite negative)
  | x => x.toRat?.map .rational

def Decimal.amount? : Decimal → Option Amount
  | .infinite negative => some (.infinite negative)
  | d => d.toRat?.map .rational

/-- The plain value of a machine scalar. A moment or a span that has none is left a number of units.
-/
def Scalar.item : Scalar → Value
  | .int _ n => .int n
  | .float _ x => .float x
  | .bool b => .bool b
  | .text s => .text s
  | .moment .nanosecond count => .int count
  | .moment unit count =>
    match unit.moment? count with
    | some m => if unit.isDays then .date m.date else .moment m
    | none => .int count
  | .span unit count =>
    match Duration.ofUnits? unit count with
    | some d => .duration d
    | none => .int count
  | .never .. => .null

/-- What two machine times are compared by. -/
inductive Timing where
  | moment (nanoseconds : Int)
  | months (n : Int)
  | span (nanoseconds : Int)
  | never (object : Nat)
deriving DecidableEq

def Scalar.timing? : Scalar → Option Timing
  | .moment unit count => some (.moment (unit.sinceStart count))
  | .span unit count =>
    some (match unit.length with
      | .inl months => .months (months * count)
      | .inr nanoseconds => .span (nanoseconds * count))
  | .never _ _ object => some (.never object)
  | _ => none

namespace Value

def timing? : Value → Option Timing
  | .scalar s => s.timing?
  | _ => none

/-- Whether a machine time is equal to a value that is none. A span is compared by its number of
units with an integer. -/
def meetsTime : Value → Value → Bool
  | .scalar s@(.span _ count), v =>
    match v with
    | .bool b | .scalar (.bool b) => count == b.toNat
    | .int n | .scalar (.int _ n) => count == n
    | .duration d =>
      match s.item with
      | .duration d' => d == d'
      | _ => false
    | _ => false
  | .scalar s@(.moment unit count), v =>
    match v, s.item with
    | .date d, .date d' => d == d'
    | .moment m, .moment m' => m.same m'
    | .stamp m, _ => m.offset.isNone && m.sinceStart == unit.sinceStart count
    | _, _ => false
  | _, _ => false

/-- A value that denotes a number. The parts are absent where they are no number. -/
structure Quantity where
  re : Option Amount
  im : Option Amount := some (.rational 0)

def Quantity.same (a b : Quantity) : Bool :=
  a.re.isSome && a.im.isSome && a.re == b.re && a.im == b.im

def quantity? : Value → Option Quantity
  | .bool b | .scalar (.bool b) => some ⟨some (.rational b.toNat), some (.rational 0)⟩
  | .int n | .scalar (.int _ n) => some ⟨some (.rational n), some (.rational 0)⟩
  | .float x | .scalar (.float _ x) => some ⟨x.amount?, some (.rational 0)⟩
  | .decimal d => some ⟨d.amount?, some (.rational 0)⟩
  | .complex re im => some ⟨re.amount?, im.amount?⟩
  | _ => none

/-- The format of a machine floating-point number. -/
def machineFormat? : Value → Option Floating.Format
  | .scalar (.float width _) => some width.format
  | _ => none

def isMachineInt : Value → Bool
  | .scalar (.int ..) => true
  | _ => false

def isFloat : Value → Bool
  | .float _ | .scalar (.float ..) => true
  | _ => false

def Amount.roundTo (f : Floating.Format) : Amount → Option Amount
  | .rational q => (f.ofRat q).amount?
  | a => some a

def Quantity.roundTo (f : Floating.Format) (q : Quantity) : Quantity :=
  { q with re := q.re.bind (Amount.roundTo f) }

/-- A number as it meets another: ordinary numbers take the format of a machine floating-point
number, machine integers meet floating-point numbers in double precision. -/
def meeting (other v : Value) (q : Quantity) : Quantity :=
  match v, other.machineFormat? with
  | .int _, some f | .bool _, some f | .float _, some f => q.roundTo f
  | _, _ => if v.isMachineInt && other.isFloat then q.roundTo .double else q

/-- Whether two values without parts are equal, neither of them a machine time. -/
def sameContent (exact : Bool) (a b : Value) : Bool :=
  match a.quantity?, b.quantity? with
  | some p, some q => if exact then p.same q else (meeting b a p).same (meeting a b q)
  | some _, none | none, some _ => false
  | none, none =>
    match a, b with
    | .null, .null | .missing, .missing | .notATime, .notATime => true
    | .bytes x, .bytes y => x == y
    | .date x, .date y => x == y
    | .time x, .time y => if exact then x.sameKey y else x.same y
    | .duration x, .duration y => x == y
    | .moment x, .moment y | .moment x, .stamp y | .stamp x, .moment y | .stamp x, .stamp y =>
      x.same y
    | .classObject x, .classObject y => x == y
    | .pattern x, .pattern y => x.same y
    | .range x, .range y => x.toNat == y.toNat
    | _, _ => match a.text?, b.text? with
      | some x, some y => x == y
      | _, _ => false

/-- Whether two values without parts are equal. -/
def sameLeaf (exact : Bool) (a b : Value) : Bool :=
  match a.timing?, b.timing? with
  | some s, some t => s == t
  | some _, none => !exact && a.meetsTime b
  | none, some _ => !exact && b.meetsTime a
  | none, none => sameContent exact a b

mutual

def sameAs (exact : Bool) : Value → Value → Bool
  | .sequence kind xs, .sequence kind' ys => kind == kind' && sameItems exact xs ys
  | .array _ xs, .array _ ys => sameItems exact xs ys
  | .point _ x, .point _ y => x.sameAs exact y
  | .set _ xs, .set _ ys => xs.length == ys.length && allAmong exact xs ys
  | .mapping kind es, .mapping kind' es' =>
    es.length == es'.length &&
      (if kind == .ordered && kind' == .ordered then sameEntries exact es es'
        else allEntriesAmong exact es es')
  | a, b => sameLeaf exact a b

def sameItems (exact : Bool) : List Value → List Value → Bool
  | [], [] => true
  | x :: xs, y :: ys => x.sameAs exact y && sameItems exact xs ys
  | _, _ => false

/-- Whether every value is equal to one of a list. -/
def allAmong (exact : Bool) : List Value → List Value → Bool
  | [], _ => true
  | x :: xs, ys => ys.any (fun y => x.sameAs exact y) && allAmong exact xs ys

def sameEntry (exact : Bool) : Value × Value → Value × Value → Bool
  | (k, v), e => k.sameAs true e.1 && v.sameAs exact e.2

def sameEntries (exact : Bool) : List (Value × Value) → List (Value × Value) → Bool
  | [], [] => true
  | e :: es, e' :: es' => sameEntry exact e e' && sameEntries exact es es'
  | _, _ => false

/-- Whether every entry is equal to one of a list. -/
def allEntriesAmong (exact : Bool) : List (Value × Value) → List (Value × Value) → Bool
  | [], _ => true
  | e :: es, es' => es'.any (fun e' => sameEntry exact e e') && allEntriesAmong exact es es'

end

/-- Whether two values are one key of a mapping. -/
def sameKey (a b : Value) : Bool := a.sameAs true b

/-- Whether two values are one as contents, as a list looks for it: the same object or equal. -/
def equal (a b : Value) : Bool := a.sameAs false b

/-- Times that are none, which are equal to nothing. -/
def isNever : Value → Bool
  | .notATime | .scalar (.never ..) => true
  | _ => false

/-- Whether two values are equal, the same object or not. -/
def isEqual (a b : Value) : Bool := !a.isNever && a.equal b

end Value

namespace Entries

variable {α : Type}

/-- The value under a key. -/
def get? (entries : List (Value × α)) (key : Value) : Option α :=
  (entries.find? fun e => key.sameKey e.1).map Prod.snd

def contains (entries : Entries) (key : Value) : Bool := (get? entries key).isSome

/-- Puts a value under a key. A key that is there keeps its place and its form; another goes last.
-/
def insert (key : Value) (v : α) : List (Value × α) → List (Value × α)
  | [] => [(key, v)]
  | e :: rest => if key.sameKey e.1 then (e.1, v) :: rest else e :: insert key v rest

/-- Entries put one after the other into an empty mapping. -/
def ofList (entries : List (Value × Value)) : Entries :=
  entries.foldl (fun es e => insert e.1 e.2 es) []

def keys (entries : List (Value × α)) : List Value := entries.map Prod.fst

end Entries

end DataShape
