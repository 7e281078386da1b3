import ProblemMatcher.Json.Reader
import ProblemMatcher.Text.Lines
import ProblemMatcher.Text.Whitespace

/-!
# Declarations in a document

Where patterns are declared, found in the text of a document line by line, so that it works while
the document is being edited. A line that holds a `regexp` with its value is the declaration of a
pattern; a line that opens a `pattern` list is that of a chain. Of a long line only the first
thousand characters are looked at.
-/

namespace ProblemMatcher

open ProblemMatcher.Text

structure Declaration where
  line : Nat
  column : Nat
  /-- The column behind the declaration. -/
  endColumn : Nat
  /-- The pattern; nothing for a chain. -/
  source : Option String
  deriving Repr, DecidableEq

namespace Declaration

def isChain (d : Declaration) : Bool :=
  d.source.isNone

def maxLineLength : Nat := 1000

/-- The text behind an expected one. -/
def skip? (expected s : List Char) : Option (List Char) :=
  if expected.isPrefixOf s then some (s.drop expected.length) else none

/-- The body of a string literal that ends a line, with or without a comma behind it. -/
def literalBody? (s : List Char) : Option (List Char) :=
  match s.reverse with
  | '"' :: body => if body.isEmpty then none else some body.reverse
  | ',' :: '"' :: body => if body.isEmpty then none else some body.reverse
  | _ => none

/-- The body of the literal in a line that declares a pattern. -/
def patternBody? (line : List Char) : Option (List Char) := do
  let rest ← skip? "\"regexp\":".toList (dropBlanks line)
  let rest ← skip? ['"'] (dropBlanks rest)
  literalBody? rest

/-- The text behind the bracket in a line that opens a chain. -/
def chainRest? (line : List Char) : Option (List Char) := do
  let rest ← skip? "\"pattern\":".toList (dropBlanks line)
  skip? ['['] (dropBlanks rest)

/-- Two backslashes made one, from the left. -/
def halveBackslashes : List Char → List Char
  | [] => []
  | [c] => [c]
  | c :: d :: rest =>
    if c = '\\' ∧ d = '\\' then '\\' :: halveBackslashes rest
    else c :: halveBackslashes (d :: rest)

/-- The text that the body of a literal stands for, bodies that escape a lone surrogate left out. A
body that is not one is kept, with doubled backslashes made single. -/
def unescape (body : List Char) : String :=
  match Json.parseChars ('"' :: body ++ ['"']) with
  | .ok (.str s) => s
  | _ => String.ofList (halveBackslashes body)

/-- The declaration in a line, if there is one. -/
def inLine? (number : Nat) (line : List Char) : Option Declaration :=
  let line := line.take maxLineLength
  let column := (line.takeWhile isBlank).length
  match patternBody? line with
  | some body =>
    some { line := number, column, endColumn := line.length, source := some (unescape body) }
  | none =>
    (chainRest? line).map fun rest =>
      { line := number, column, endColumn := line.length - rest.length, source := none }

/-- The declarations in lines of which the first has the given number. -/
def inLines : Nat → List (List Char) → List Declaration
  | _, [] => []
  | number, line :: rest => (inLine? number line).toList ++ inLines (number + 1) rest

/-- The declarations of a document, in order. -/
def find (text : String) : List Declaration :=
  inLines 0 (splitLines isLineBreak text.toList)

end Declaration

end ProblemMatcher
