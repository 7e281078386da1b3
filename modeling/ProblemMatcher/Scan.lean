import ProblemMatcher.Diagnostic.Extract
import ProblemMatcher.Matcher.Compile

/-!
# Scanning the output of a tool

Every matcher is tried once on the whole text, in the order of declaration, and contributes the
diagnostic of its first match.
-/

namespace ProblemMatcher

namespace CompiledMatcher

def firstMatch? [Engine] (m : CompiledMatcher) (text : Array Char) :
    Except Regex.Rejection (Option Capture) :=
  match m.regex with
  | some regex =>
    (regex.search text).map (·.map fun found => ⟨found, regex.groupCount, text⟩)
  | none => .ok none

/-- The first match of a matcher and its diagnostic. -/
def scan [Engine] (m : CompiledMatcher) (text : Array Char) :
    Except Regex.Rejection (Option Capture × Option Diagnostic) :=
  (m.firstMatch? text).map fun capture? => (capture?, capture?.bind (·.diagnostic? m.offsets))

end CompiledMatcher

/-- The diagnostics of a text, in the order of the matchers. -/
def scanDocument [Engine] (text : Array Char) :
    List Matcher → Except Regex.Rejection (List Diagnostic)
  | [] => .ok []
  | m :: rest => do
    let (_, diagnostic) ← (← m.compile).scan text
    return diagnostic.toList ++ (← scanDocument text rest)

end ProblemMatcher
