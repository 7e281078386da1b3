import ProblemMatcher.Diagnostic
import ProblemMatcher.Json.Reader
import ProblemMatcher.Regex.Rejection
import ProblemMatcher.File.Tree
import ProblemMatcher.Text.Position

/-!
# Messages between an editor and a session

What an editor tells a session, what it gets back, and what it is sent besides. An editor counts
lines and columns from 0 and takes no number above `maxPosition`.
-/

namespace ProblemMatcher

open Text (Position)

/-- What an editor tells a session. -/
inductive Event
  | opened (uri text : String) (language : Option String)
  | changed (uri text : String)
  | closed (uri : String)
  | lens (uri : String)
  | preview (arguments : List Json.Value)
  | toggle

/-- A diagnostic as an editor shows it. -/
structure Finding where
  range : Range
  message : String
  severity : Severity
  /-- Faults of a document have none. -/
  code : Option Code
  deriving Repr, DecidableEq

/-- What a session sends. -/
inductive Notice
  | publish (uri : String) (findings : List Finding)
  | showError (message : String)
  deriving Repr, DecidableEq

/-- A button above a line of a document. -/
structure Lens where
  uri : String
  range : Range
  deriving Repr, DecidableEq

namespace Lens

def title : String := "Test Regex..."

/-- What pressing the button does. -/
def command : String := "regexpreview.preview"

/-- What it does it with: the document and the line. -/
def arguments (l : Lens) : List Json.Value :=
  [.str l.uri, .int l.range.line]

end Lens

/-- What a session answers. -/
inductive Reply
  | done
  | lenses (found : List Lens)
  | ranges (found : List (Position × Position))
  | injecting (on : Bool)
  deriving Repr, DecidableEq

/-- The name under which findings are shown. -/
def findingSource : String := "regexpreview"

/-! ## Positions -/

/-- The largest line or column an editor takes. -/
def maxPosition : Int := 2147483647

inductive Axis
  | line
  | character
  deriving Repr, DecidableEq

namespace Axis

def name : Axis → String
  | .line => "line"
  | .character => "character"

end Axis

/-- A line or column that no editor takes. -/
structure PositionFault where
  axis : Axis
  value : Int
  deriving Repr, DecidableEq

namespace PositionFault

def message (f : PositionFault) : String :=
  s!"Position.{f.axis.name} should be in range [0:{maxPosition}], but was {f.value}."

end PositionFault

namespace Finding

/-- A line or column for an editor; a negative one becomes 0. -/
def coordinate (axis : Axis) (n : Int) : Except PositionFault Int :=
  if max n 0 ≤ maxPosition then .ok (max n 0) else .error ⟨axis, max n 0⟩

def ofDiagnostic (d : Diagnostic) : Except PositionFault Finding := do
  let line ← coordinate .line d.range.line
  let column ← coordinate .character d.range.column
  let endLine ← coordinate .line d.range.endLine
  let endColumn ← coordinate .character d.range.endColumn
  return {
    range := ⟨line, column, endLine, endColumn⟩
    message := s!"{d.file}: {d.message}"
    severity := d.severity
    code := some d.code }

/-- The findings for diagnostics, or the first fault of one. -/
def ofDiagnostics : List Diagnostic → Except PositionFault (List Finding)
  | [] => .ok []
  | d :: rest => do
    let finding ← ofDiagnostic d
    return finding :: (← ofDiagnostics rest)

/-- What is wrong with a whole document. -/
def ofDocumentFault (message : String) : Finding where
  range := ⟨0, 0, 0, 0⟩
  message
  severity := .error
  code := none

end Finding

/-! ## Faults -/

/-- Why an event has no reply. -/
inductive SessionFault
  | unknownDocument (uri : String)
  | document (why : Json.ReadError)
  | rejected (why : Regex.Rejection)
  | unreadable (why : ReadFault)
  | position (why : PositionFault)
  deriving Repr, DecidableEq

namespace SessionFault

def message : SessionFault → String
  | .unknownDocument uri => Text.quoted uri
  | .document why => why.message
  | .rejected why => why.message
  | .unreadable why => why.message
  | .position why => why.message

end SessionFault

end ProblemMatcher
