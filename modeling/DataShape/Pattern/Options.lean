/-!
# Pattern options

The switches of a pattern. Their number is the sum of a power of two for each switch that is on.
-/

namespace DataShape.Pattern

structure Options where
  template : Bool := false
  ignoreCase : Bool := false
  locale : Bool := false
  multiline : Bool := false
  dotAll : Bool := false
  unicode : Bool := false
  verbose : Bool := false
  debug : Bool := false
  latin : Bool := false
deriving DecidableEq, Inhabited

namespace Options

def toNat (o : Options) : Nat :=
  o.template.toNat + 2 * o.ignoreCase.toNat + 4 * o.locale.toNat + 8 * o.multiline.toNat
    + 16 * o.dotAll.toNat + 32 * o.unicode.toNat + 64 * o.verbose.toNat + 128 * o.debug.toNat
    + 256 * o.latin.toNat

def ofNat (n : Nat) : Options where
  template := n.testBit 0
  ignoreCase := n.testBit 1
  locale := n.testBit 2
  multiline := n.testBit 3
  dotAll := n.testBit 4
  unicode := n.testBit 5
  verbose := n.testBit 6
  debug := n.testBit 7
  latin := n.testBit 8

/-- The switch that a letter stands for. -/
def ofLetter? : Char → Option Options
  | 'i' => some { ignoreCase := true }
  | 'L' => some { locale := true }
  | 'm' => some { multiline := true }
  | 's' => some { dotAll := true }
  | 'x' => some { verbose := true }
  | 'a' => some { latin := true }
  | 't' => some { template := true }
  | 'u' => some { unicode := true }
  | _ => none

/-- Combines two settings switch by switch. -/
def combine (f : Bool → Bool → Bool) (a b : Options) : Options where
  template := f a.template b.template
  ignoreCase := f a.ignoreCase b.ignoreCase
  locale := f a.locale b.locale
  multiline := f a.multiline b.multiline
  dotAll := f a.dotAll b.dotAll
  unicode := f a.unicode b.unicode
  verbose := f a.verbose b.verbose
  debug := f a.debug b.debug
  latin := f a.latin b.latin

def union : Options → Options → Options := combine (· || ·)

def without : Options → Options → Options := combine fun a b => a && !b

/-- Whether some switch is on in both. -/
def meets (a b : Options) : Bool := combine (· && ·) a b != {}

/-- The switches for the kind of text, of which one is on at a time. -/
def kinds : Options := { latin := true, locale := true, unicode := true }

/-- The switches that hold for a whole pattern only. -/
def wholes : Options := { template := true, debug := true }

/-- How many switches for the kind of text are on. -/
def kindCount (o : Options) : Nat := o.latin.toNat + o.locale.toNat + o.unicode.toNat

/-- The switches inside a group that turns some on and some off. -/
def inside (o add remove : Options) : Options :=
  let o := if add.meets kinds then o.without kinds else o
  (o.union add).without remove

end Options

end DataShape.Pattern
