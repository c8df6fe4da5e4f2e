/-!
# Kinds of failure

What sort of thing went wrong. A caller decides by the kind whether to report a failure as an error
of its input or to give up.
-/

namespace DataShape

inductive FailureKind where
  /-- A schema that is rejected. -/
  | schema
  /-- A value that does not match its schema. -/
  | mismatch
  | value
  | type
  | member
  | entry
  | position
  | overflow
  | pattern
  | missingFile
  | folder
  | levels
  /-- Data that has no value here. -/
  | unsupported
deriving DecidableEq

namespace FailureKind

/-- Whether the content of some input is at fault. -/
def isValue : FailureKind → Bool
  | .schema | .mismatch | .value => true
  | _ => false

end FailureKind

end DataShape
