import ProblemMatcher.Regex.State

/-!
# The engine

Patterns are run by an engine of which two releases are in use. The late one corrects what the early
one does in the rounds of a possessive repetition: when a round may begin, which round is the last,
and where a round that fails leaves the repetition. In all else they agree.

The engine is a parameter of all that runs a pattern. Nothing is assumed of it, so what is shown for
a pattern that is run is shown for both releases.
-/

namespace ProblemMatcher

namespace Regex

inductive Release
  | early
  | late
  deriving Repr, DecidableEq

namespace Release

/-- The early release begins no round at the end of the text. -/
def mayBegin (size : Nat) (s : State) : Release → Bool
  | .early => s.pos != size
  | .late => true

/-- The early release ends with a round that changes nothing, the late one with a round that takes
up nothing. -/
def isLast (s s' : State) : Release → Bool
  | .early => s' == s
  | .late => s'.pos == s.pos

/-- A round that fails leaves the early release at the place last noted, which may be in the middle
of the round; the late one goes back to where the round began. -/
def afterFailure (s : State) (noted : Nat) : Release → State
  | .early => s.goTo noted
  | .late => s

end Release

end Regex

/-- The engine that runs the patterns. -/
class Engine where
  release : Regex.Release

/-- Where no engine is given, patterns are run by the early release. -/
instance : Engine where
  release := .early

end ProblemMatcher
