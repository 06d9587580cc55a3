import Breadcrumb.Integer
import Breadcrumb.Text.Quoted

namespace Breadcrumb.Pattern

inductive Cause where
  | escapeAtEnd
  | badEscape (escape : Text)
  | incompleteEscape (escape : Text)
  | octalTooLarge (escape : Text)
  | missingBrace
  | unknownCharacterName (name : Text)
  | missingName (what : Text)
  | unterminatedName (terminator : Char)
  | badName (name : Text)
  | unknownName (name : Text)
  | nameTaken (name : Text) (index earlier : Nat)
  | badGroupNumber
  | badReference (index : Nat)
  | openGroup
  | lookBehindGroup
  | unterminatedSet
  | badRange (lo hi : Text)
  | badBounds
  | nothingToRepeat
  | multipleRepeat
  | unexpectedEnd
  | unknownExtension (extension : Text)
  | unterminatedComment
  | unterminatedGroup
  | unbalanced
  | tooManyBranches
  | lateFlags
  | localeFlag
  | conflictingFlags
  | unknownFlag
  | missingFlag
  | missingFlagEnd
  | missingColon
  | stickyFlag
  | globalFlagOn
  | globalFlagOff
  | flagOnAndOff
  | looseLookBehind
  | repetitionTooLarge
  | asciiAndUnicode
  | tooManyDigits (fault : TooManyDigits)
  deriving DecidableEq

namespace Cause

def message : Cause → Text
  | .escapeAtEnd => "bad escape (end of pattern)".toList
  | .badEscape escape => "bad escape ".toList ++ escape
  | .incompleteEscape escape => "incomplete escape ".toList ++ escape
  | .octalTooLarge escape =>
    "octal escape value ".toList ++ escape ++ " outside of range 0-0o377".toList
  | .missingBrace => "missing \x7b".toList
  | .unknownCharacterName name => "undefined character name ".toList ++ name.quoted
  | .missingName what => "missing ".toList ++ what
  | .unterminatedName terminator => "missing ".toList ++ terminator :: ", unterminated name".toList
  | .badName name => "bad character in group name ".toList ++ name.quoted
  | .unknownName name => "unknown group name ".toList ++ name.quoted
  | .nameTaken name index earlier =>
    "redefinition of group name ".toList ++ name.quoted ++ " as group ".toList ++
      Text.ofNat index ++ "; was group ".toList ++ Text.ofNat earlier
  | .badGroupNumber => "bad group number".toList
  | .badReference index => "invalid group reference ".toList ++ Text.ofNat index
  | .openGroup => "cannot refer to an open group".toList
  | .lookBehindGroup =>
    "cannot refer to group defined in the same lookbehind subpattern".toList
  | .unterminatedSet => "unterminated character set".toList
  | .badRange lo hi => "bad character range ".toList ++ lo ++ '-' :: hi
  | .badBounds => "min repeat greater than max repeat".toList
  | .nothingToRepeat => "nothing to repeat".toList
  | .multipleRepeat => "multiple repeat".toList
  | .unexpectedEnd => "unexpected end of pattern".toList
  | .unknownExtension extension => "unknown extension ".toList ++ extension
  | .unterminatedComment => "missing ), unterminated comment".toList
  | .unterminatedGroup => "missing ), unterminated subpattern".toList
  | .unbalanced => "unbalanced parenthesis".toList
  | .tooManyBranches => "conditional backref with more than two branches".toList
  | .lateFlags => "global flags not at the start of the expression".toList
  | .localeFlag => "bad inline flags: cannot use 'L' flag with a str pattern".toList
  | .conflictingFlags => "bad inline flags: flags 'a', 'u' and 'L' are incompatible".toList
  | .unknownFlag => "unknown flag".toList
  | .missingFlag => "missing flag".toList
  | .missingFlagEnd => "missing -, : or )".toList
  | .missingColon => "missing :".toList
  | .stickyFlag => "bad inline flags: cannot turn off flags 'a', 'u' and 'L'".toList
  | .globalFlagOn => "bad inline flags: cannot turn on global flag".toList
  | .globalFlagOff => "bad inline flags: cannot turn off global flag".toList
  | .flagOnAndOff => "bad inline flags: flag turned on and off".toList
  | .looseLookBehind => "look-behind requires fixed-width pattern".toList
  | .repetitionTooLarge => "the repetition number is too large".toList
  | .asciiAndUnicode => "ASCII and UNICODE flags are incompatible".toList
  | .tooManyDigits fault => fault.message

/-- Whether the expression itself is at fault, rather than a number or option in it. -/
def isMalformed : Cause → Bool
  | .repetitionTooLarge | .asciiAndUnicode | .tooManyDigits _ => false
  | _ => true

end Cause

/-- A cause and, unless it concerns the expression as a whole, its position. -/
structure Fault where
  cause : Cause
  position : Option Nat := none
  deriving DecidableEq

namespace Fault

/-- The line and the column of a position, both counted from one. -/
def lineAndColumn (expression : Text) (position : Nat) : Nat × Nat :=
  let before := (expression.take position).reverse
  (before.count '\n' + 1, (before.takeWhile (· ≠ '\n')).length + 1)

/-- The wording of the fault; line and column are given if the expression has several lines. -/
def message (expression : Text) (fault : Fault) : Text :=
  match fault.position with
  | none => fault.cause.message
  | some position =>
    let said := fault.cause.message ++ " at position ".toList ++ Text.ofNat position
    if expression.contains '\n' then
      let (line, column) := lineAndColumn expression position
      said ++ " (line ".toList ++ Text.ofNat line ++ ", column ".toList ++ Text.ofNat column ++
        ")".toList
    else said

end Fault

end Breadcrumb.Pattern
