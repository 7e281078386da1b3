import ProblemMatcher.Diagnostic.Location
import ProblemMatcher.Diagnostic.Severity
import ProblemMatcher.Field
import ProblemMatcher.Regex

/-!
# Diagnostics from matches

A match becomes a diagnostic when its file and message are captured and its place can be made out:
from the location if that is captured and is one, and otherwise from line and column, with the end
falling back to the start. A number that cannot be read drops the diagnostic.
-/

namespace ProblemMatcher

open ProblemMatcher.Text

/-- A match together with what it is a match of. -/
structure Capture where
  found : Regex.Match
  groupCount : Nat
  text : Array Char

namespace Capture

/-- The text captured for a field, if its group exists and took part in the match. -/
def field? (c : Capture) (offsets : FieldTable) (f : Field) : Option String :=
  match offsets.get? f with
  | none => none
  | some index =>
    if index < 0 || (c.groupCount : Int) < index then none
    else c.found.group? c.text index.toNat

/-- The text captured for a field, if it is not empty. -/
def value? (c : Capture) (offsets : FieldTable) (f : Field) : Option String :=
  (c.field? offsets f).filter (· ≠ "")

/-- The range given by line and column. -/
def discreteRange? (c : Capture) (offsets : FieldTable) : Except NumeralFault (Option Range) :=
  match c.value? offsets .line, c.value? offsets .column with
  | some line, some column => do
    let endLine := (c.value? offsets .endLine).getD line
    let endColumn := (c.value? offsets .endColumn).getD column
    return some {
      line := ← parseInt line.toList
      column := ← parseInt column.toList
      endLine := ← parseInt endLine.toList
      endColumn := ← parseInt endColumn.toList }
  | _, _ => .ok none

/-- The range given by the location, or else by line and column. -/
def range? (c : Capture) (offsets : FieldTable) : Except NumeralFault (Option Range) := do
  let location ← match c.value? offsets .location with
    | some location => Range.parse? location.toList
    | none => .ok none
  match location with
  | some range => return some range
  | none => c.discreteRange? offsets

/-- The diagnostic of a match, if it is complete and its numbers can be read. -/
def diagnostic? (c : Capture) (offsets : FieldTable) : Option Diagnostic :=
  match c.value? offsets .file, c.value? offsets .message with
  | some file, some message =>
    match c.range? offsets with
    | .ok (some range) =>
      some {
        file, message, range
        code := match c.value? offsets .code with
          | some text => .captured text
          | none => .placeholder
        severity := Severity.parse (c.field? offsets .severity) }
    | _ => none
  | _, _ => none

end Capture

end ProblemMatcher
