/-!
# Boundary tables

A set of numbers is given by the sorted list of the places where membership changes: the first
number of each stretch inside, and the first number after it. A number is inside when an odd count
of boundaries lies at or below it. `countUpTo` finds that count by halving the table.
-/

namespace ProblemMatcher.Text

/-- Halves the part of `bounds` between `lo` and `hi`; each round at least halves its length. -/
def countUpToIn (bounds : Array Nat) (n : Nat) : Nat → Nat → Nat → Nat
  | 0, lo, _ => lo
  | rounds + 1, lo, hi =>
    if lo < hi then
      let mid := (lo + hi) / 2
      if bounds.getD mid 0 ≤ n then countUpToIn bounds n rounds (mid + 1) hi
      else countUpToIn bounds n rounds lo mid
    else lo

/-- How many members of a sorted table are at most `n`. -/
def countUpTo (bounds : Array Nat) (n : Nat) : Nat :=
  countUpToIn bounds n bounds.size 0 bounds.size

/-- The set with these boundaries holds `n`. -/
def between (bounds : Array Nat) (n : Nat) : Bool :=
  countUpTo bounds n % 2 == 1

end ProblemMatcher.Text
