import ProblemMatcher.Text.Numeral

/-!
# Why a pattern is rejected

A pattern that breaks the grammar is malformed. Four rejections are of another kind, because they
leave the grammar intact: a repetition count beyond the engine's range, a count with more digits
than an integer may have, a pattern that asks for the ASCII and the Unicode alphabet at once, and a
lookbehind that steps back too far. The last one concerns a match: it is rejected if one of its
groups would end before it begins.
-/

namespace ProblemMatcher.Regex

/-- The first rule of the grammar that a pattern breaks. -/
inductive Fault
  | loneBackslash
  | badEscape
  | badCodePoint
  | unknownCharacterName
  | unterminatedClass
  | badRange
  | nothingToRepeat
  | repeatedRepeat
  | leastAboveMost
  | unterminatedGroup
  | unbalancedParenthesis
  | unknownExtension
  | badGroupName
  | repeatedGroupName
  | unknownGroup
  | openGroup
  | groupOfLookbehind
  | tooManyBranches
  | badFlags
  | misplacedFlags
  | unfixedLookbehind
  | templateRepeat
  deriving Repr, DecidableEq

inductive Rejection
  | malformed (fault : Fault)
  | countTooLarge
  | countTooLong (digits : Nat)
  | alphabetConflict
  | lookbehindTooWide
  | crossedGroup
  deriving Repr, DecidableEq

namespace Rejection

def isMalformed : Rejection → Bool
  | .malformed _ => true
  | _ => false

/-- The text of a rejection. Malformed patterns are reported by what they are used for, so their
text is never shown. -/
def message : Rejection → String
  | .malformed _ => "malformed pattern"
  | .countTooLarge => "the repetition number is too large"
  | .countTooLong digits => Text.tooManyDigitsMessage digits
  | .alphabetConflict => "ASCII and UNICODE flags are incompatible"
  | .lookbehindTooWide => "invalid SRE code"
  | .crossedGroup =>
    "The span of capturing group is wrong, please report a bug for the re module."

end Rejection

end ProblemMatcher.Regex
