import ProblemMatcher.CommandLine.Arguments
import ProblemMatcher.Live
import ProblemMatcher.Matcher.Load
import ProblemMatcher.Scan
import ProblemMatcher.Settings.Load
import ProblemMatcher.Text.Position
import ProblemMatcher.Text.Styling

/-!
# The command line

Both commands take the settings that count for the working directory and read a sample. `check`
tells what the matchers of a file find in it, `preview` shows all matches of a pattern and what they
tell.

A command ends with 0, with 1 if a check has found something, and with 2 if it has reported why it
could not do its work. Some causes are not reported but passed on as faults.
-/

namespace ProblemMatcher

/-- What a command leaves behind. -/
structure CommandOutput where
  exitCode : Nat := 0
  output : String := ""
  errors : String := ""
  deriving Repr, DecidableEq

/-- Why a command breaks off. -/
inductive CommandFault
  | settings (why : SettingsFault)
  | load (why : LoadFault)
  | rejected (why : Regex.Rejection)
  | unreadable (why : ReadFault)
  deriving Repr, DecidableEq

namespace CommandFault

def message : CommandFault → String
  | .settings why => why.message
  | .load why => why.message
  | .rejected why => why.message
  | .unreadable why => why.message

end CommandFault

/-- A diagnostic on a line, with a code in case it has captured none. -/
def Diagnostic.line (d : Diagnostic) (spare : String) : String :=
  let code := match d.code with
    | .captured text => text
    | .placeholder => spare
  s!"{d.file}:{d.range.line}:{d.range.column}: {d.severity.name} {code} {d.message}"

namespace Command

open Text (Position)

/-- Why a command does no more: with a report for the user, or with a fault. -/
inductive Stop
  | report (message : String)
  | fault (why : CommandFault)
  deriving Repr, DecidableEq

/-- Lines of text as they are written, without styling. -/
def printed (lines : List String) : String :=
  String.join (lines.map fun line => Text.withoutStyling (line ++ "\n"))

/-- The lines of diagnostics, each with a spare code of its own. -/
def diagnosticLines (codes : Nat → String) (ds : List Diagnostic) : List String :=
  ds.zipIdx.map fun (d, i) => d.line (codes i)

/-- A match as a line. -/
def rangeLine (start stop : Position) : String :=
  s!"{start.line}:{start.column}-{stop.line}:{stop.column}"

def rangeLines (text : List Char) (found : List (Nat × Nat)) : List String :=
  let starts := (Text.lineStarts text).toArray
  found.map fun (start, stop) =>
    rangeLine (Text.positionIn starts start) (Text.positionIn starts stop)

/-- The settings that count for the working directory: those of the nearest file at it or above
it. -/
def settings (t : FileTree) : Except Stop Settings :=
  (Settings.load t t.currentDirectory).mapError fun why => .fault (.settings why)

/-- The part of a sample that is looked at. -/
def sampleText (t : FileTree) (s : Settings) (path : Path) : Except Stop (List Char) :=
  match t.readText path with
  | .ok text => .ok (s.bound text)
  | .error why =>
    match why with
    | .file _ _ => .error (.report why.message)
    | _ => .error (.fault (.unreadable why))

/-- A file without proper declarations is reported, and so is one that cannot be opened. -/
def stopOf (why : LoadFault) : Stop :=
  match why with
  | .unreadable (.file _ _) | .document _ (.malformed ..) | .declaration _ => .report why.message
  | _ => .fault (.load why)

/-- The matchers with one of some names, or all of them if there are none. -/
def chosen (names : List String) (ms : List Matcher) : List Matcher :=
  if names.isEmpty then ms else ms.filter fun m => names.contains m.name

def runCheck [Engine] (t : FileTree) (codes : Nat → String) (config sample : Path)
    (names : List String) :
    Except Stop CommandOutput := do
  let s ← settings t
  let ms ← (Matcher.load t config).mapError stopOf
  let text ← sampleText t s sample
  let found ← (scanDocument text.toArray (chosen names ms)).mapError fun why =>
    .fault (.rejected why)
  return {
    exitCode := if found.isEmpty then 0 else 1
    output := printed (diagnosticLines codes found) }

/-- The pattern of a source and its letters; a malformed one is reported. -/
def patternOf (source letters : String) : Except Stop LivePattern :=
  match LivePattern.ofSource source letters with
  | .ok (some p) => .ok p
  | .ok none => .error (.report s!"invalid regex {Text.quoted source}")
  | .error why => .error (.fault (.rejected why))

def runPreview [Engine] (t : FileTree) (codes : Nat → String) (source : String) (sample : Path)
    (letters : String) (inject : Bool) : Except Stop CommandOutput := do
  let s ← settings t
  let p ← patternOf source letters
  let text ← sampleText t s sample
  let (found, diagnostics) ←
    (p.run text.toArray (s.inject && inject)).mapError fun why => .fault (.rejected why)
  return { output := printed (rangeLines text found ++ diagnosticLines codes diagnostics) }

def perform [Engine] (t : FileTree) (codes : Nat → String) : Command → Except Stop CommandOutput
  | .check config sample names => runCheck t codes config sample names
  | .preview source sample letters inject => runPreview t codes source sample letters inject

/-- Runs a command in a working directory. `codes` are made up for diagnostics without one; a path
that cannot be one is a fault before all others. -/
def run [Engine] (t : FileTree) (codes : Nat → String) (c : Command) :
    Except CommandFault CommandOutput :=
  if c.paths.any FileTree.hasNul then .error (.unreadable .nulInPath)
  else match c.perform t codes with
    | .ok output => .ok output
    | .error (.report message) => .ok { exitCode := 2, errors := printed [s!"error: {message}"] }
    | .error (.fault why) => .error why

end Command

end ProblemMatcher
