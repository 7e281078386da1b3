import ProblemMatcher.Declaration.Pattern
import ProblemMatcher.File.Uri
import ProblemMatcher.Matcher.Declared
import ProblemMatcher.Session.Message
import ProblemMatcher.Settings

/-!
# Sessions

A session serves one editor. It keeps the documents that have been opened, in their last state, and
whether the choice of `inject` has been turned over. `Session.step` is what an event does to it;
`Session.answer` is what the editor gets, which depends on the session after the step.
-/

namespace ProblemMatcher

open Text (Position)

structure Document where
  text : String
  language : Option String
  deriving Repr, DecidableEq

namespace Document

/-- A document is one of JSON by its language or by its name. -/
def isJson (d : Document) (uri : String) : Bool :=
  d.language == some "json" || uri.endsWith ".json"

end Document

structure Session where
  settings : Settings := {}
  /-- What has been chosen for `inject` since the start. -/
  chosen : Option Bool := none
  documents : List (String × Document) := []

namespace Session

def isInjecting (s : Session) : Bool :=
  s.chosen.getD s.settings.inject

def document (s : Session) (uri : String) : Except SessionFault Document :=
  match s.documents.lookup uri with
  | some d => .ok d
  | none => .error (.unknownDocument uri)

def putDocument (s : Session) (uri : String) (d : Document) : Session :=
  { s with documents := (uri, d) :: s.documents.filter (·.1 ≠ uri) }

theorem lookup_filter_ne {uri other : String} (h : uri ≠ other) (ds : List (String × Document)) :
    (ds.filter (·.1 ≠ uri)).lookup other = ds.lookup other := by
  induction ds with
  | nil => rfl
  | cons x rest ih =>
    obtain ⟨key, d⟩ := x
    by_cases hk : key = uri
    · subst hk
      have hb : (other == key) = false := beq_false_of_ne (Ne.symm h)
      simpa [List.lookup_cons, hb] using ih
    · rw [List.filter_cons_of_pos (by simpa using hk), List.lookup_cons, List.lookup_cons, ih]

theorem document_putDocument (s : Session) (uri other : String) (d : Document) :
    (s.putDocument uri d).document other = if uri = other then .ok d else s.document other := by
  by_cases h : uri = other
  · subst h; simp [putDocument, document]
  · have hb : (other == uri) = false := beq_false_of_ne (Ne.symm h)
    simp only [putDocument, document, List.lookup_cons, hb, lookup_filter_ne h, h, if_false]

/-- A document that has not been opened cannot change. -/
def changeText (s : Session) (uri text : String) : Session :=
  match s.documents.lookup uri with
  | some d => s.putDocument uri { d with text }
  | none => s

/-- What an event does to a session. A closed document is kept. -/
def step (s : Session) : Event → Session
  | .opened uri text language => s.putDocument uri { text, language }
  | .changed uri text => s.changeText uri text
  | .toggle => { s with chosen := some !s.isInjecting }
  | _ => s

theorem isInjecting_toggle (s : Session) : (s.step .toggle).isInjecting = !s.isInjecting := rfl

theorem settings_step (s : Session) (e : Event) : (s.step e).settings = s.settings := by
  cases e with
  | changed uri text => simp only [step, changeText]; split <;> rfl
  | _ => rfl

/-! ## Faults of documents -/

/-- What is wrong with the declarations in a text. A text that is not JSON has nothing wrong: most
likely it is being typed. -/
def declarationFault? (text : String) : Except SessionFault (Option DeclarationError) :=
  match Json.parse text with
  | .error (.malformed ..) => .ok none
  | .error why => .error (.document why)
  | .ok doc =>
    match Matcher.ofDocument doc with
    | .ok _ => .ok none
    | .error fault => .ok (some fault)

/-- Publishes what is wrong with a document of JSON. -/
def publishFaults (s : Session) (uri : String) : Except SessionFault (List Notice) := do
  let d ← s.document uri
  if d.isJson uri then
    let fault ← declarationFault? d.text
    return [.publish uri (fault.toList.map fun fault => .ofDocumentFault fault.message)]
  else return []

/-! ## Lenses -/

def lensOf (uri : String) (d : Declaration) : Lens where
  uri
  range := ⟨d.line, d.column, d.line, d.endColumn⟩

/-- A lens on every declaration of a document of JSON. -/
def lenses (s : Session) (uri : String) : Except SessionFault (List Lens) := do
  let d ← s.document uri
  return if d.isJson uri then (Declaration.find d.text).map (lensOf uri) else []

/-! ## Previews -/

/-- Some editors send the arguments of a command as one list. -/
def unpack : List Json.Value → List Json.Value
  | [.arr items] => items
  | arguments => arguments

/-- The document and the line that a preview is asked for. -/
def previewTarget? (arguments : List Json.Value) : Option (String × Int) :=
  match unpack arguments with
  | uri :: .int line :: _ => some (uri.asText, line)
  | uri :: .bool line :: _ => some (uri.asText, if line then 1 else 0)
  | _ => none

/-- The matchers declared in a text, none if there is something wrong with it. -/
def matchersOf (text : String) : Except SessionFault (List Matcher) :=
  match Json.parse text with
  | .error (.malformed ..) => .ok []
  | .error why => .error (.document why)
  | .ok doc =>
    match Matcher.ofDocument doc with
    | .ok ms => .ok ms
    | .error _ => .ok []

/-- The places of matches in a text as positions. -/
def positionRanges (text : List Char) (found : List (Nat × Nat)) : List (Position × Position) :=
  let starts := (Text.lineStarts text).toArray
  found.map fun (start, stop) => (Text.positionIn starts start, Text.positionIn starts stop)

/-- Tries a pattern on the text of a sample. -/
def evaluate [Engine] (s : Session) (uri : String) (p : LivePattern) (text : List Char) :
    Except SessionFault (Reply × List Notice) := do
  let (found, diagnostics) ← (p.run text.toArray s.isInjecting).mapError .rejected
  let findings ← (Finding.ofDiagnostics diagnostics).mapError .position
  return (.ranges (positionRanges text found), [.publish uri findings])

/-- The URI of a file of the tree. -/
def uriOf (t : FileTree) (p : Path) : String :=
  match t.resolve p with
  | .ok (place, _) => Uri.ofPlace place
  | .error _ => Uri.ofPlace p.names

/-- Tries a pattern on a sample. A sample that cannot be opened is reported to the user. -/
def evaluateFile [Engine] (s : Session) (t : FileTree) (p : LivePattern) (sample : Path) :
    Except SessionFault (Reply × List Notice) :=
  match t.readText sample with
  | .ok text => s.evaluate (uriOf t sample) p (s.settings.bound text)
  | .error (.file fault path) =>
    .ok (.ranges [], [.showError s!"regexpreview: {fault.message path}"])
  | .error why => .error (.unreadable why)

/-- Tries the declaration at a line of a document on the sample. -/
def previewAt [Engine] (s : Session) (t : FileTree) (uri : String) (line : Int) :
    Except SessionFault (Reply × List Notice) := do
  let d ← s.document uri
  let ds := Declaration.find d.text
  match ds.find? (fun d => (d.line : Int) = line), s.settings.sample with
  | some declaration, some sample =>
    let ms ← matchersOf d.text
    match ← (declaration.pattern? ds ms).mapError .rejected with
    | some p => s.evaluateFile t p sample
    | none => return (.ranges [], [])
  | _, _ => return (.ranges [], [])

def preview [Engine] (s : Session) (t : FileTree) (arguments : List Json.Value) :
    Except SessionFault (Reply × List Notice) :=
  match previewTarget? arguments with
  | some (uri, line) => s.previewAt t uri line
  | none => .ok (.ranges [], [])

/-! ## Answers -/

/-- The reply to an event and what is sent besides, by the session after the event. -/
def answer [Engine] (s : Session) (t : FileTree) : Event → Except SessionFault (Reply × List Notice)
  | .opened uri _ _ => (s.publishFaults uri).map (.done, ·)
  | .changed uri _ => (s.publishFaults uri).map (.done, ·)
  | .closed uri => .ok (.done, [.publish uri []])
  | .lens uri => (s.lenses uri).map (.lenses ·, [])
  | .preview arguments => s.preview t arguments
  | .toggle => .ok (.injecting s.isInjecting, [])

/-- The answers to a list of events. -/
def run [Engine] (t : FileTree) :
    Session → List Event → List (Except SessionFault (Reply × List Notice))
  | _, [] => []
  | s, e :: rest => (s.step e).answer t e :: run t (s.step e) rest

end Session

end ProblemMatcher
