import ProblemMatcher.Json.Value
import ProblemMatcher.Matcher

/-!
# Declared matchers

Matchers are declared in JSON: in a list, or in the `problemMatchers` of an object or of its
`contributes`. A matcher has a `pattern`, which is a text, an object or a list of these; a list
makes a chain. Fields are given by group indices, in a pattern object for that pattern and in
`defaults` for the table under it, which is the usual one for a pattern that is not in a list and
empty for a chain.

What is wrong with a declaration is told by the first rule it breaks. Unknown names come before
wrong indices, and among each the names go in the order of their code points, so the order in which
a declaration gives its members never matters.
-/

namespace ProblemMatcher

open Json (Value)

/-- How a matcher is referred to: by its name, or by its number. -/
inductive MatcherLabel
  | named (name : String)
  | numbered (index : Int)
  deriving Repr, DecidableEq

/-- A part of a declaration. -/
inductive DeclarationPart
  | pattern (label : MatcherLabel)
  | chainPattern (label : MatcherLabel) (position : Nat)
  | defaults (label : MatcherLabel)
  deriving Repr, DecidableEq

inductive DeclarationError
  | contributesNotObject
  | matchersNotList
  | matcherNotObject (index : Int) (kind : String)
  | noPattern (label : MatcherLabel)
  | emptyChain (label : MatcherLabel)
  | patternNotObject (part : DeclarationPart) (kind : String)
  | sourceNotText (part : DeclarationPart)
  | loopNotBoolean (part : DeclarationPart)
  | defaultsNotObject (label : MatcherLabel)
  | unknownNames (part : DeclarationPart) (names : List String)
  | wrongIndex (part : DeclarationPart) (field : Field) (shown : String)
  deriving Repr, DecidableEq

namespace MatcherLabel

def text : MatcherLabel → String
  | named name => s!"matcher {Text.quoted name}"
  | numbered index => s!"matcher #{index}"

end MatcherLabel

namespace DeclarationPart

def text : DeclarationPart → String
  | pattern label => s!"{label.text}, pattern"
  | chainPattern label position => s!"{label.text}, pattern #{position}"
  | defaults label => s!"{label.text}, defaults"

end DeclarationPart

namespace DeclarationError

def message : DeclarationError → String
  | contributesNotObject => "'contributes' must be an object"
  | matchersNotList => "'problemMatchers' must be a list"
  | matcherNotObject index kind => s!"matcher #{index}: expected an object, got {kind}"
  | noPattern label => s!"{label.text}: 'pattern' must be a string, an object, or a list"
  | emptyChain label => s!"{label.text}: 'pattern' list is empty"
  | patternNotObject part kind => s!"{part.text}: expected a pattern object, got {kind}"
  | sourceNotText part => s!"{part.text}: 'regexp' must be a string"
  | loopNotBoolean part => s!"{part.text}: 'loop' must be a boolean"
  | defaultsNotObject label => s!"{label.text}: 'defaults' must be an object"
  | unknownNames part names => s!"{part.text}: unknown key(s) " ++ ", ".intercalate names
  | wrongIndex part field shown =>
    s!"{part.text}: {Text.quoted field.key} must be an integer group index, got {shown}"

end DeclarationError

/-- The members of a JSON object. -/
abbrev Members := List (String × Value)

namespace Members

def get? (members : Members) (name : String) : Option Value :=
  Value.lookup name members

def names (members : Members) : List String :=
  members.map (·.1)

end Members

namespace Matcher

/-- The fields in the order of their names. -/
def fieldsByName : List Field :=
  [.code, .column, .endColumn, .endLine, .file, .line, .location, .message, .severity]

def fieldNames : List String :=
  Field.all.map Field.key

/-- The names a pattern object may use. -/
def patternNames : List String :=
  fieldNames ++ ["regexp", "loop", "kind"]

/-- The names that are not allowed, in order. -/
def unknownNames (allowed : List String) (members : Members) : List String :=
  (members.names.filter fun name => !allowed.contains name).mergeSort (fun a b => a ≤ b)

/-- The index that the members give to a field. -/
def index? (members : Members) (f : Field) : Option Int :=
  match members.get? f.key with
  | some (.int n) => some n
  | _ => none

/-- The value of a field that is not an index. -/
def wrongValue? (members : Members) (f : Field) : Option Value :=
  match members.get? f.key with
  | some (.int _) => none
  | found => found

/-- The table given by the members of a pattern object or of `defaults`. -/
def fieldTable (part : DeclarationPart) (allowed : List String) (members : Members) :
    Except DeclarationError FieldTable :=
  match unknownNames allowed members with
  | [] =>
    match fieldsByName.findSome? fun f => (wrongValue? members f).map (f, ·) with
    | some (f, v) => .error (.wrongIndex part f v.shown)
    | none => .ok (index? members)
  | names => .error (.unknownNames part names)

def fragmentOfMembers (part : DeclarationPart) (members : Members) :
    Except DeclarationError Fragment :=
  match members.get? "regexp" with
  | some (.str source) =>
    match (members.get? "loop").getD (.bool false) with
    | .bool loop =>
      (fieldTable part patternNames members).map fun fields => { source, fields, loop }
    | _ => .error (.loopNotBoolean part)
  | _ => .error (.sourceNotText part)

def fragmentOfValue (part : DeclarationPart) : Value → Except DeclarationError Fragment
  | .str source => .ok { source }
  | .obj members => fragmentOfMembers part members
  | v => .error (.patternNotObject part v.kind)

/-- The patterns of a chain, of which the first has the given position. -/
def fragmentsOfValues (label : MatcherLabel) : Nat → List Value →
    Except DeclarationError (List Fragment)
  | _, [] => .ok []
  | position, v :: rest => do
    let fragment ← fragmentOfValue (.chainPattern label position) v
    return fragment :: (← fragmentsOfValues label (position + 1) rest)

/-- The patterns of a matcher and the table under them, before `defaults`. -/
def shapeOfValue (label : MatcherLabel) :
    Option Value → Except DeclarationError (List Fragment × FieldTable)
  | some (.arr []) => .error (.emptyChain label)
  | some (.arr items) => (fragmentsOfValues label 0 items).map (·, .empty)
  | some (.str source) => .ok ([{ source }], .single)
  | some (.obj members) =>
    (fragmentOfMembers (.pattern label) members).map fun fragment => ([fragment], .single)
  | _ => .error (.noPattern label)

def isChain : Option Value → Bool
  | some (.arr _) => true
  | _ => false

def labelOf (index : Int) (members : Members) : MatcherLabel :=
  match members.get? "name" with
  | some (.str name) => .named name
  | _ => .numbered index

def nameOf (index : Int) (members : Members) : String :=
  match members.get? "name" with
  | some (.str name) => name
  | _ => s!"#{index}"

def ofMembers (index : Int) (members : Members) : Except DeclarationError Matcher := do
  let label := labelOf index members
  let (fragments, base) ← shapeOfValue label (members.get? "pattern")
  match (members.get? "defaults").getD (.obj []) with
  | .obj defaults =>
    let upper ← fieldTable (.defaults label) fieldNames defaults
    return {
      fragments
      defaults := (base.overlay upper).supplied
      name := nameOf index members
      chained := isChain (members.get? "pattern") }
  | _ => .error (.defaultsNotObject label)

/-- A declared matcher; the index stands for a name it lacks. -/
def ofValue (index : Int) : Value → Except DeclarationError Matcher
  | .obj members => ofMembers index members
  | v => .error (.matcherNotObject index v.kind)

/-- The matchers of a list, of which the first has the given index. -/
def ofValuesFrom : Int → List Value → Except DeclarationError (List Matcher)
  | _, [] => .ok []
  | index, v :: rest => do
    let m ← ofValue index v
    return m :: (← ofValuesFrom (index + 1) rest)

/-- The value that holds the matchers of a document. -/
def declarationsOf : Value → Except DeclarationError Value
  | .obj members =>
    match (Members.get? members "contributes").getD (.obj members) with
    | .obj contributes => .ok ((Members.get? contributes "problemMatchers").getD (.arr []))
    | _ => .error .contributesNotObject
  | v => .ok v

/-- The matchers of a document. -/
def ofDocument (doc : Value) : Except DeclarationError (List Matcher) := do
  match ← declarationsOf doc with
  | .arr items => ofValuesFrom 0 items
  | _ => .error .matchersNotList

end Matcher

end ProblemMatcher
