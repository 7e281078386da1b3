import ProblemMatcher.Diagnostic
import ProblemMatcher.Text.LetterCase
import ProblemMatcher.Text.Whitespace

/-!
# Captured severities

The word a tool uses for a severity, in any case and with whitespace around it. A missing or unknown
word is an error.
-/

namespace ProblemMatcher.Severity

open ProblemMatcher.Text

def ofWord? (word : String) : Option Severity :=
  match word with
  | "error" => some .error
  | "warning" => some .warning
  | "info" => some .information
  | "information" => some .information
  | "hint" => some .hint
  | _ => none

def parse (text : Option String) : Severity :=
  match text with
  | none => .error
  | some text => (ofWord? (String.ofList (lowerText (trim text.toList)))).getD .error

end ProblemMatcher.Severity
