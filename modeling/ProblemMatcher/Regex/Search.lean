import ProblemMatcher.Regex.Opening
import ProblemMatcher.Regex.Run

/-!
# Search

A search tries the places of a text one after another, those where no match can begin left out, and
stops at the first that has a match.
-/

namespace ProblemMatcher.Regex

/-- A match: its place and the places of the groups, from group 1 on. -/
structure Match where
  start : Nat
  stop : Nat
  groups : List (Option (Nat × Nat))
  deriving Repr, DecidableEq

namespace Node

/-- The end and the marks of the match of a tree at a place. -/
def matchAt [Engine] (root : Node) (text : Array Char) (pos : Nat) : Option (Nat × Marks) :=
  match root.run text false none done (.start pos) with
  | .matched s => some (s.pos, s.marks)
  | .failed _ _ => none

/-- The first place with a match, its end and its marks, among the next `count` places. -/
def searchFrom [Engine] (root : Node) (opening : Opening) (text : Array Char) :
    Nat → Nat → Option (Nat × Nat × Marks)
  | 0, _ => none
  | count + 1, pos =>
    match if opening.admits text pos then root.matchAt text pos else none with
    | some found => some (pos, found)
    | none => searchFrom root opening text count (pos + 1)

end Node

end ProblemMatcher.Regex
