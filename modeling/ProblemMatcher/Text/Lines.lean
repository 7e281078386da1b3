/-!
# Lines

Cutting a text into lines at line breaks. A carriage return with a line feed behind it is one break
wherever the carriage return is one. A break at the end of the text does not open another line.
-/

namespace ProblemMatcher.Text

/-- The characters at which a general text breaks into lines. -/
def isLineBreak (c : Char) : Bool :=
  let n := c.toNat
  (10 ≤ n && n ≤ 13) || (28 ≤ n && n ≤ 30) || n == 133 || n == 8232 || n == 8233

/-- The characters at which an editor breaks lines. -/
def isEditorBreak (c : Char) : Bool :=
  c == '\n' || c == '\r'

/-- The lines from inside one on, of which the characters read so far are given last first. -/
def splitLinesFrom (isBreak : Char → Bool) : List Char → List Char → List (List Char)
  | read, [] => if read.isEmpty then [] else [read.reverse]
  | read, [c] => if isBreak c then [read.reverse] else [(c :: read).reverse]
  | read, c :: d :: rest =>
    if isBreak c then
      if c = '\r' ∧ d = '\n' then read.reverse :: splitLinesFrom isBreak [] rest
      else read.reverse :: splitLinesFrom isBreak [] (d :: rest)
    else splitLinesFrom isBreak (c :: read) (d :: rest)

/-- The lines of a text, without their breaks. -/
def splitLines (isBreak : Char → Bool) (text : List Char) : List (List Char) :=
  splitLinesFrom isBreak [] text

/-- Every break of a file made a line feed: carriage returns, alone or with a line feed. -/
def normalizeBreaks : List Char → List Char
  | [] => []
  | [c] => if c = '\r' then ['\n'] else [c]
  | c :: d :: rest =>
    if c = '\r' then
      if d = '\n' then '\n' :: normalizeBreaks rest else '\n' :: normalizeBreaks (d :: rest)
    else c :: normalizeBreaks (d :: rest)

end ProblemMatcher.Text
