import DataShape.Fault

/-!
# Containers

Walking through a value, counting its parts and asking whether it holds another value; each is a
fault for values that have no parts of the kind.
-/

namespace DataShape

namespace Value

/-- The values that a walk through a value meets. -/
def walk : Value → Except Fault (List Value)
  | .sequence _ items | .set _ items | .array _ items => .ok items
  | .mapping _ entries => .ok (entries.map Prod.fst)
  | .text s | .scalar (.text s) => .ok (s.toList.map fun c => .text c.toString)
  | .bytes b => .ok (b.map fun x => .int x.toNat)
  | .range stop => .ok ((List.range stop.toNat).map fun (n : Nat) => .int n)
  | .point .. => .error .pointRows
  | v => .error (.notIterable v)

def length : Value → Except Fault Nat
  | .sequence _ items | .set _ items | .array _ items => .ok items.length
  | .mapping _ entries => .ok entries.length
  | .text s | .scalar (.text s) => .ok s.length
  | .bytes b => .ok b.length
  | .range stop => .ok stop.toNat
  | .point .. => .error .pointLength
  | v => .error (.noLength v)

/-- Whether two values are equal as a condition asks it: a packed array is compared element by
element, which settles nothing unless there is exactly one. -/
def equals (a b : Value) : Except Fault Bool :=
  if a.isArray || b.isArray then
    let (packed, other) := if a.isArray then (a, b) else (b, a)
    match packed.elements with
    | [] => .error (.ambiguousTruth true)
    | [v] => .ok (v.isEqual other)
    | _ => .error (.ambiguousTruth false)
  else .ok (a.equal b)

def anyEquals (v : Value) : List Value → Except Fault Bool
  | [] => .ok false
  | option :: rest => do if ← option.equals v then pure true else anyEquals v rest

/-- Whether one text occurs in another. -/
def occursIn (part whole : List Char) : Bool :=
  part.isPrefixOf whole || match whole with
    | [] => false
    | _ :: rest => occursIn part rest

/-- Whether a value is one of the keys, which only a value that can be a key may ask. -/
def isKeyOf (v : Value) (keys : List Value) : Except Fault Bool :=
  match v.unhashable? with
  | some reason => .error (.unhashable reason)
  | none => .ok (keys.any v.sameKey)

/-- Whether a container holds a value. -/
def isIn (v : Value) : Value → Except Fault Bool
  | .sequence _ items => v.anyEquals items
  | .array _ rows => .ok ((allElements rows).any v.isEqual)
  | .set _ items => v.isKeyOf items
  | .mapping _ entries => v.isKeyOf (entries.map Prod.fst)
  | .text s | .scalar (.text s) =>
    match v.text? with
    | some part => .ok (occursIn part.toList s.toList)
    | none => .error (.notInText v)
  | .bytes b =>
    match v with
    | .int n => .ok (b.any fun x => (x.toNat : Int) = n)
    | .bytes part =>
      let chars (b : List UInt8) := b.map fun x => Char.ofNat x.toNat
      .ok (occursIn (chars part) (chars b))
    | _ => .error (.notInBytes v)
  | .range stop => .ok ((List.range stop.toNat).any fun (n : Nat) => v.equal (.int n))
  | container => .error (.notSearchable container)

end Value

end DataShape
