import DataShape.Text.Quoted

/-!
# Complaints about patterns

What is wrong with the text of a pattern, and where. A place is counted in characters from zero; in
a text of several lines the message also gives line and column.
-/

namespace DataShape.Pattern

open Text

inductive Cause where
  | badEscapeAtEnd
  | badEscape (escape : String)
  | incompleteEscape (escape : String)
  | octalTooLarge (escape : String)
  | missingBrace
  | missingName (what : String)
  | unterminatedName (terminator : Char)
  | undefinedCharacter (name : String)
  | openGroup
  | groupInsideLookbehind
  | noSuchGroup (number : Nat)
  | unterminatedSet
  | badRange (low high : String)
  | minimumAboveMaximum
  | nothingToRepeat
  | multipleRepeat
  | unexpectedEnd
  | unknownExtension (text : String)
  | badGroupName (name : String)
  | unknownGroupName (name : String)
  | groupNameTaken (name : String) (number earlier : Nat)
  | badGroupNumber
  | unterminatedComment
  | unterminatedGroup
  | tooManyBranches
  | optionsNotAtStart
  | localeInText
  | unicodeInBytes
  | clashingOptions
  | missingOptionsEnd
  | unknownOption
  | missingOption
  | missingColon
  | cannotTurnOff
  | cannotTurnOnGlobal
  | cannotTurnOffGlobal
  | turnedOnAndOff
  | unbalanced
  | variableLookbehind
  | farLookbehind
  | repeatInTemplate (operator : String)
deriving DecidableEq

def Cause.message : Cause → String
  | .badEscapeAtEnd => "bad escape (end of pattern)"
  | .badEscape e => "bad escape " ++ e
  | .incompleteEscape e => "incomplete escape " ++ e
  | .octalTooLarge e => "octal escape value " ++ e ++ " outside of range 0-0o377"
  | .missingBrace => "missing \x7b"
  | .missingName what => "missing " ++ what
  | .unterminatedName t => "missing " ++ t.toString ++ ", unterminated name"
  | .undefinedCharacter name => "undefined character name " ++ quoted name
  | .openGroup => "cannot refer to an open group"
  | .groupInsideLookbehind => "cannot refer to group defined in the same lookbehind subpattern"
  | .noSuchGroup n => "invalid group reference " ++ toString n
  | .unterminatedSet => "unterminated character set"
  | .badRange low high => "bad character range " ++ low ++ "-" ++ high
  | .minimumAboveMaximum => "min repeat greater than max repeat"
  | .nothingToRepeat => "nothing to repeat"
  | .multipleRepeat => "multiple repeat"
  | .unexpectedEnd => "unexpected end of pattern"
  | .unknownExtension text => "unknown extension ?" ++ text
  | .badGroupName name => "bad character in group name " ++ quoted name
  | .unknownGroupName name => "unknown group name " ++ quoted name
  | .groupNameTaken name number earlier =>
    "redefinition of group name " ++ quoted name ++ " as group " ++ toString number
      ++ "; was group " ++ toString earlier
  | .badGroupNumber => "bad group number"
  | .unterminatedComment => "missing ), unterminated comment"
  | .unterminatedGroup => "missing ), unterminated subpattern"
  | .tooManyBranches => "conditional backref with more than two branches"
  | .optionsNotAtStart => "global flags not at the start of the expression"
  | .localeInText => "bad inline flags: cannot use 'L' flag with a str pattern"
  | .unicodeInBytes => "bad inline flags: cannot use 'u' flag with a bytes pattern"
  | .clashingOptions => "bad inline flags: flags 'a', 'u' and 'L' are incompatible"
  | .missingOptionsEnd => "missing -, : or )"
  | .unknownOption => "unknown flag"
  | .missingOption => "missing flag"
  | .missingColon => "missing :"
  | .cannotTurnOff => "bad inline flags: cannot turn off flags 'a', 'u' and 'L'"
  | .cannotTurnOnGlobal => "bad inline flags: cannot turn on global flag"
  | .cannotTurnOffGlobal => "bad inline flags: cannot turn off global flag"
  | .turnedOnAndOff => "bad inline flags: flag turned on and off"
  | .unbalanced => "unbalanced parenthesis"
  | .variableLookbehind => "look-behind requires fixed-width pattern"
  | .farLookbehind => "looks too much behind"
  | .repeatInTemplate operator => "internal: unsupported template operator " ++ operator

/-- Why a text is no pattern. -/
inductive Complaint where
  /-- A fault of the text, at a place if it has one. -/
  | fault (cause : Cause) (position : Option Nat)
  /-- A repetition count that is not below the limit. -/
  | repetitionTooLarge
  /-- A number with more digits than are read. -/
  | numberTooLong (digits : Nat)
  | latinAndUnicode
  | localeOption
  | unicodeOption
  | latinAndLocale
deriving DecidableEq

def Complaint.message (source : List Char) : Complaint → String
  | .fault cause none => cause.message
  | .fault cause (some position) =>
    let before := source.take position
    let line := before.count '\n' + 1
    let column := (before.reverse.takeWhile (· ≠ '\n')).length + 1
    cause.message ++ " at position " ++ toString position
      ++ if source.contains '\n' then
          " (line " ++ toString line ++ ", column " ++ toString column ++ ")"
        else ""
  | .repetitionTooLarge => "the repetition number is too large"
  | .numberTooLong digits => tooManyDigits digits
  | .latinAndUnicode => "ASCII and UNICODE flags are incompatible"
  | .localeOption => "cannot use LOCALE flag with a str pattern"
  | .unicodeOption => "cannot use UNICODE flag with a bytes pattern"
  | .latinAndLocale => "ASCII and LOCALE flags are incompatible"

end DataShape.Pattern
