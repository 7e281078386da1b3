import ProblemMatcher.Diagnostic
import ProblemMatcher.Text.Numeral

/-!
# Captured locations

A location is one, two or four integers with commas between them: a line, a line and a column, or
both ends of a range. Any other count of parts is not a location, whatever the parts hold.
-/

namespace ProblemMatcher.Range

open ProblemMatcher.Text

/-- The parts of a text between its commas. -/
def splitCommas (text : List Char) : List (List Char) :=
  text.splitOn ','

def ofValues? : List Int → Option Range
  | [line] => some ⟨line, 0, line, 0⟩
  | [line, column] => some ⟨line, column, line, column⟩
  | [line, column, endLine, endColumn] => some ⟨line, column, endLine, endColumn⟩
  | _ => none

/-- A range from a captured location; nothing when the count of its parts is wrong. -/
def parse? (text : List Char) : Except NumeralFault (Option Range) :=
  let parts := splitCommas text
  if parts.length = 1 || parts.length = 2 || parts.length = 4 then
    (parts.mapM parseInt).map ofValues?
  else .ok none

end ProblemMatcher.Range
