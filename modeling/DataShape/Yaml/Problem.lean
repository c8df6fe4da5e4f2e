import DataShape.Calendar.Moment
import DataShape.Text.Quoted
import DataShape.Value.Display

/-!
# What is wrong with YAML text

A text that is no single YAML document of known tags is malformed, whatever the reason. Apart from
that, a scalar may be written as its tag demands in part only, and then denote nothing. A node that
holds itself and a half of a pair of codes have no value here, though they are YAML.
-/

namespace DataShape.Yaml

inductive Problem where
  | malformed
  /-- A node that is named inside itself. -/
  | recursive
  /-- An escape for half of a pair of codes. -/
  | loneHalf
  /-- An escape by a number that is no character, or beyond all machine integers. -/
  | notCharacter (isHuge : Bool)
  | notBoolean (word : String)
  /-- A number without a character. -/
  | emptyNumber
  | notInteger (base : Nat) (numeral : List Char)
  | tooManyDigits (count : Nat)
  | notFloat (numeral : List Char)
  | notTimestamp
  /-- A timestamp that is given by the value of a mapping. -/
  | timestampMapping
  | badZone (offset : Offset)
  | badDate (defect : Date.Defect)
  | badClock (defect : Clock.Defect)

def Problem.message : Problem → String
  | .malformed => "Failed to parse YAML"
  | .recursive => "a node that holds itself has no value"
  | .loneHalf => "half of a pair is no character"
  | .notCharacter isHuge =>
    if isHuge then "Python int too large to convert to C int"
    else "chr() arg not in range(0x110000)"
  | .notBoolean word => Text.quoted word
  | .emptyNumber => "string index out of range"
  | .notInteger base numeral =>
    "invalid literal for int() with base " ++ toString base ++ ": "
      ++ String.ofList (Text.quotedChars numeral)
  | .tooManyDigits count => Text.tooManyDigits count
  | .notFloat numeral =>
    "could not convert string to float: " ++ String.ofList (Text.quotedChars numeral)
  | .notTimestamp => "'NoneType' object has no attribute 'groupdict'"
  | .timestampMapping => "expected string or bytes-like object, got 'list'"
  | .badZone offset =>
    "offset must be a timedelta strictly between -timedelta(hours=24) and timedelta(hours=24), not "
      ++ Duration.call offset ++ "."
  | .badDate defect => defect.message
  | .badClock defect => defect.message

end DataShape.Yaml
