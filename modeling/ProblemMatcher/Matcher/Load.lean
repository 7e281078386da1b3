import ProblemMatcher.File.Tree
import ProblemMatcher.Json.Reader
import ProblemMatcher.Matcher.Declared

/-!
# Matchers from a file

A file declares matchers by the JSON it holds. What is wrong with it is told by the first step that
fails: reading its text, reading the JSON, reading the declarations.
-/

namespace ProblemMatcher

/-- Why a file has no matchers. -/
inductive LoadFault
  | unreadable (fault : ReadFault)
  | document (path : Path) (fault : Json.ReadError)
  | declaration (fault : DeclarationError)
  deriving Repr, DecidableEq

namespace LoadFault

def message : LoadFault → String
  | .unreadable fault => fault.message
  | .document path fault =>
    match fault with
    | .malformed .. => s!"{path.toString}: invalid JSON: {fault.message}"
    | _ => fault.message
  | .declaration fault => fault.message

end LoadFault

namespace Matcher

/-- The matchers declared in the text of a file. -/
def ofText (path : Path) (text : List Char) : Except LoadFault (List Matcher) :=
  match Json.parseChars text with
  | .ok doc => (ofDocument doc).mapError .declaration
  | .error fault => .error (.document path fault)

/-- The matchers declared in a file. -/
def load (t : FileTree) (path : Path) : Except LoadFault (List Matcher) :=
  match t.readText path with
  | .ok text => ofText path text
  | .error fault => .error (.unreadable fault)

end Matcher

end ProblemMatcher
