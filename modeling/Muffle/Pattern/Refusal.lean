/-
  Muffle.Pattern.Refusal

  Why a text is no pattern. A complaint found while reading has a position; a position in a text
  of several lines is given as line and column too. What is found only when the pattern is
  complete has none.
-/

import Muffle.Text.Quoted

namespace Muffle.Pattern

/-- What is wrong in the text of a pattern. -/
inductive Complaint where
  | escapeAtEnd
  | incompleteEscape (text : String)
  | missingBrace
  | missingName (what : String)
  | unterminatedName (terminator : Char)
  | undefinedCharacter (name : String)
  | octalTooLarge (text : String)
  | badEscape (text : String)
  | openGroup
  | lookbehindGroup
  | noSuchGroup (index : Nat)
  | unterminatedSet
  | badRange (first last : String)
  | leastAboveMost
  | nothingToRepeat
  | multipleRepeat
  | unexpectedEnd
  | badGroupName (name : String)
  | unknownGroupName (name : String)
  | unknownExtension (text : String)
  | unterminatedComment
  | unterminatedGroup
  | badGroupNumber
  | tooManyBranches
  | misplacedFlags
  | redefinedGroup (name : String) (index earlier : Nat)
  | localeFlag
  | exclusiveFlags
  | unknownFlag
  | missingFlagEnd
  | missingFlag
  | missingColon
  | globalFlagOn
  | alphabetFlagOff
  | globalFlagOff
  | flagOnAndOff
  | unbalancedParenthesis
  | tooFarBehind
  | variableWidthBehind
  | templateRepetition (operator : String)
deriving DecidableEq, Repr

/-- The words for a complaint. -/
def Complaint.message : Complaint → String
  | .escapeAtEnd => "bad escape (end of pattern)"
  | .incompleteEscape t => "incomplete escape " ++ t
  | .missingBrace => "missing \x7b"
  | .missingName what => "missing " ++ what
  | .unterminatedName t => "missing " ++ t.toString ++ ", unterminated name"
  | .undefinedCharacter n => "undefined character name " ++ Text.quoted n
  | .octalTooLarge t => "octal escape value " ++ t ++ " outside of range 0-0o377"
  | .badEscape t => "bad escape " ++ t
  | .openGroup => "cannot refer to an open group"
  | .lookbehindGroup => "cannot refer to group defined in the same lookbehind subpattern"
  | .noSuchGroup n => "invalid group reference " ++ toString n
  | .unterminatedSet => "unterminated character set"
  | .badRange a b => "bad character range " ++ a ++ "-" ++ b
  | .leastAboveMost => "min repeat greater than max repeat"
  | .nothingToRepeat => "nothing to repeat"
  | .multipleRepeat => "multiple repeat"
  | .unexpectedEnd => "unexpected end of pattern"
  | .badGroupName n => "bad character in group name " ++ Text.quoted n
  | .unknownGroupName n => "unknown group name " ++ Text.quoted n
  | .unknownExtension t => "unknown extension ?" ++ t
  | .unterminatedComment => "missing ), unterminated comment"
  | .unterminatedGroup => "missing ), unterminated subpattern"
  | .badGroupNumber => "bad group number"
  | .tooManyBranches => "conditional backref with more than two branches"
  | .misplacedFlags => "global flags not at the start of the expression"
  | .redefinedGroup n i j =>
    "redefinition of group name " ++ Text.quoted n ++ " as group " ++ toString i ++
      "; was group " ++ toString j
  | .localeFlag => "bad inline flags: cannot use 'L' flag with a str pattern"
  | .exclusiveFlags => "bad inline flags: flags 'a', 'u' and 'L' are incompatible"
  | .unknownFlag => "unknown flag"
  | .missingFlagEnd => "missing -, : or )"
  | .missingFlag => "missing flag"
  | .missingColon => "missing :"
  | .globalFlagOn => "bad inline flags: cannot turn on global flag"
  | .alphabetFlagOff => "bad inline flags: cannot turn off flags 'a', 'u' and 'L'"
  | .globalFlagOff => "bad inline flags: cannot turn off global flag"
  | .flagOnAndOff => "bad inline flags: flag turned on and off"
  | .unbalancedParenthesis => "unbalanced parenthesis"
  | .tooFarBehind => "looks too much behind"
  | .variableWidthBehind => "look-behind requires fixed-width pattern"
  | .templateRepetition op => "internal: unsupported template operator " ++ op

/-- Why a text is not accepted as a pattern. -/
inductive Refusal where
  | malformed (complaint : Complaint) (position : Option Int)
  | repetitionTooLarge
  /-- A repetition count with more digits than are read. -/
  | tooManyDigits (count : Nat)
  | conflictingFlags
deriving DecidableEq, Repr

/-- A complaint with its position in the text. -/
def Complaint.located (c : Complaint) (whole : List Char) (position : Int) : String :=
  let base := c.message ++ " at position " ++ toString position
  if whole.contains '\n' then
    let before := whole.take position.toNat
    let line := before.count '\n' + 1
    let column := match before.reverse.findIdx? (· == '\n') with
      | some k => (k : Int) + 1
      | none => position + 1
    base ++ " (line " ++ toString line ++ ", column " ++ toString column ++ ")"
  else base

/-- The reason that is reported for a complaint. -/
def Complaint.reason (c : Complaint) (whole : List Char) : Option Int → String
  | none => c.message
  | some p => c.located whole p

end Muffle.Pattern
