/-!
# Terminal styling

Colours and styles are sent to a terminal as sequences of an escape character, a bracket, digits and
semicolons or question marks, and a letter. Text that goes elsewhere has them taken out.
-/

namespace ProblemMatcher.Text

def isParameter (c : Char) : Bool :=
  c.isDigit || c == ';' || c == '?'

/-- How many characters of a text make up a styling sequence at its front. -/
def stylingLength : List Char → Nat
  | '\x1b' :: '[' :: rest =>
    match (rest.dropWhile isParameter).head? with
    | some c => if c.isAlpha then (rest.takeWhile isParameter).length + 3 else 0
    | none => 0
  | _ => 0

/-- Takes out the styling of a text, of which the first `n` characters are still to be dropped. -/
def dropStyling : Nat → List Char → List Char
  | _, [] => []
  | n + 1, _ :: rest => dropStyling n rest
  | 0, c :: rest =>
    match stylingLength (c :: rest) with
    | 0 => c :: dropStyling 0 rest
    | n + 1 => dropStyling n rest

def withoutStyling (text : String) : String :=
  String.ofList (dropStyling 0 text.toList)

end ProblemMatcher.Text
