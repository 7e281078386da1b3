import ProblemMatcher.Regex.Node

/-!
# Where matching stands

A state is a place in the text, the place last noted, and the marks of the groups.

Marks say where a group was last entered and where it was last left. They are kept up to the
furthest one set. A way that fails takes the marks beyond those it found with it, but a mark that it
has set anew stays as it is; only inside a round of a repetition do the old places come back.

Whatever tries a way notes the place where it starts to, and what comes to its end notes that. The
place last noted is left behind by a way that fails. The early release of the engine goes on from
there with a possessive repetition whose last round has failed.
-/

namespace ProblemMatcher.Regex

/-- The marks set, two for each group: where it was entered and where it was left. -/
structure Marks where
  places : Array (Option Nat) := #[]
  deriving Repr, DecidableEq

namespace Marks

def count (m : Marks) : Nat :=
  m.places.size

/-- Marks between the furthest one and a new one are unset. -/
def set (m : Marks) (index pos : Nat) : Marks where
  places :=
    if index < m.places.size then m.places.setIfInBounds index (some pos)
    else (m.places ++ Array.replicate (index - m.places.size) none).push (some pos)

/-- The first marks, so many of them. -/
def take (m : Marks) (n : Nat) : Marks where
  places := m.places.take n

def entered? (m : Marks) (group : Nat) : Option Nat :=
  m.places.getD (2 * (group - 1)) none

def left? (m : Marks) (group : Nat) : Option Nat :=
  m.places.getD (2 * (group - 1) + 1) none

/-- Where a group was last matched. A group entered again but not left yet has no span, unless it
was entered exactly where it had been left. -/
def span? (m : Marks) (group : Nat) : Option (Nat × Nat) :=
  match m.entered? group, m.left? group with
  | some start, some stop => if start ≤ stop then some (start, stop) else none
  | _, _ => none

/-- A group was entered behind the place where it was left. -/
def isCrossed (m : Marks) (group : Nat) : Bool :=
  match m.entered? group, m.left? group with
  | some start, some stop => stop < start
  | _, _ => false

end Marks

structure State where
  pos : Nat
  noted : Nat
  marks : Marks := {}
  deriving Repr, DecidableEq

/-- What a tree and all that comes after it lead to. A failure leaves behind the place last noted
and the marks. -/
inductive Outcome
  | matched (s : State)
  | failed (noted : Nat) (marks : Marks)
  deriving Repr, DecidableEq

/-- What comes after a tree. -/
abbrev Continuation := State → Outcome

/-- A tree in front of a continuation. -/
abbrev Runner := Continuation → State → Outcome

namespace State

def start (pos : Nat) : State where
  pos
  noted := pos

/-- Notes the place. -/
def note (s : State) : State :=
  { s with noted := s.pos }

/-- Moves to a place and notes it. -/
def goTo (s : State) (pos : Nat) : State :=
  { s with pos, noted := pos }

def enter (s : State) (group : Nat) : State :=
  { s with marks := s.marks.set (2 * (group - 1)) s.pos }

def leave (s : State) (group : Nat) : State :=
  { s with marks := s.marks.set (2 * (group - 1) + 1) s.pos }

def fail (s : State) : Outcome :=
  .failed s.noted s.marks

/-- The state in which the next way is tried, after one that has failed. -/
def retry (s : State) (inRound : Bool) (noted : Nat) (marks : Marks) : State where
  pos := s.pos
  noted
  marks := if inRound then s.marks else marks.take s.marks.count

/-- The outcome of a way or, if it fails, of the next one. -/
def orElse (s : State) (inRound : Bool) (first : Outcome) (next : Continuation) : Outcome :=
  match first with
  | .matched done => .matched done
  | .failed noted marks => next (s.retry inRound noted marks)

end State

namespace Outcome

/-- A failure notes a place. -/
def noting (pos : Nat) : Outcome → Outcome
  | .matched done => .matched done
  | .failed _ marks => .failed pos marks

end Outcome

/-- Nothing comes after. -/
def done : Continuation := fun s => .matched s.note

end ProblemMatcher.Regex
