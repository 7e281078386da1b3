/-!
# Diagnostics

A diagnostic is what a tool says about a place in a file. Positions are kept as the tool wrote them.
-/

namespace ProblemMatcher

inductive Severity
  | error
  | warning
  | information
  | hint
  deriving Repr, DecidableEq

namespace Severity

def name : Severity → String
  | .error => "ERROR"
  | .warning => "WARNING"
  | .information => "INFORMATION"
  | .hint => "HINT"

/-- The number of a severity in the language server protocol. -/
def number : Severity → Nat
  | .error => 1
  | .warning => 2
  | .information => 3
  | .hint => 4

end Severity

structure Range where
  line : Int
  column : Int
  endLine : Int
  endColumn : Int
  deriving Repr, DecidableEq

/-- The code of a diagnostic. One that captured none is told apart from all others by a code made
up when it is shown. -/
inductive Code
  | captured (text : String)
  | placeholder
  deriving Repr, DecidableEq

structure Diagnostic where
  file : String
  message : String
  code : Code
  range : Range
  severity : Severity := .error
  deriving Repr, DecidableEq

end ProblemMatcher
