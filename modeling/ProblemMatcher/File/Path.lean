import ProblemMatcher.Text.Quoted

/-!
# Paths

A path is a root, if it has one, and the names on the way. Empty names and single dots are left out;
double dots stay, since what they lead to depends on the files.
-/

namespace ProblemMatcher

structure Path where
  /-- No slash, one or two. -/
  root : String := ""
  names : List String := []
  deriving Repr, DecidableEq

namespace Path

def isAbsolute (p : Path) : Bool :=
  p.root ≠ ""

/-- Exactly two slashes in front are a root of their own; any other number is the same as one. -/
def rootOf : List Char → String
  | '/' :: '/' :: '/' :: _ => "/"
  | '/' :: '/' :: _ => "//"
  | '/' :: _ => "/"
  | _ => ""

def namesOf (text : List Char) : List String :=
  ((text.splitOn '/').filter fun name => name ≠ [] ∧ name ≠ ['.']).map String.ofList

def ofString (text : String) : Path where
  root := rootOf text.toList
  names := namesOf text.toList

def toString (p : Path) : String :=
  if p.root = "" && p.names.isEmpty then "." else p.root ++ "/".intercalate p.names

/-- An absolute path stays as it is. -/
def join (base p : Path) : Path :=
  if p.isAbsolute then p else { base with names := base.names ++ p.names }

def parent (p : Path) : Path :=
  { p with names := p.names.dropLast }

/-- The paths above a path, the nearest first. -/
def parents (p : Path) : List Path :=
  (List.range p.names.length).reverse.map fun n => { p with names := p.names.take n }

end Path

end ProblemMatcher
