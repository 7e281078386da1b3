import ProblemMatcher.Matcher
import ProblemMatcher.Matcher.Anchors
import ProblemMatcher.Regex

/-!
# Joining the patterns of a matcher

The patterns of a matcher are joined into one by an escaped line feed, and their field tables into
one table for the groups of the whole. A pattern that is malformed becomes empty and supplies
nothing. A later table overrides an earlier one, and a negative index removes a field.

If the last pattern repeats, a group is put around it. That group comes before the pattern's own,
so every index from there on moves up by one.
-/

namespace ProblemMatcher

/-- A matcher ready for use. Without a regular expression it never matches. -/
structure CompiledMatcher where
  source : String
  groupCount : Nat
  offsets : FieldTable
  regex : Option Regex

namespace Matcher

/-- Matches one or more lines of a pattern. -/
def loopSource (source : String) : String :=
  "(" ++ source ++ "\\n?)+"

/-- What the patterns joined so far amount to; sources last first. -/
structure Joined where
  offsets : FieldTable
  sources : List String := []
  groupCount : Nat := 0
  usable : Bool := false

namespace Joined

/-- Makes room for a group in front of all groups from `index` on. -/
def shiftFrom (t : FieldTable) (index : Int) : FieldTable :=
  t.map fun i => if index ≤ i then i + 1 else i

/-- The table with a pattern's own entries, whose groups come after `before` others. -/
def place (t fields : FieldTable) (before : Nat) : FieldTable :=
  fun f => match fields f with
    | some index => if index < 0 then none else some (index + before)
    | none => t f

/-- Joins a pattern that compiles on its own into `groups` groups. -/
def addUsable (j : Joined) (f : Fragment) (source : String) (groups : Nat) (looped : Bool) :
    Joined :=
  let offsets := if looped then shiftFrom j.offsets (j.groupCount + 1) else j.offsets
  let before := if looped then j.groupCount + 1 else j.groupCount
  { offsets := place offsets f.fields before
    sources := (if looped then loopSource source else source) :: j.sources
    groupCount := before + groups
    usable := true }

def addEmpty (j : Joined) : Joined :=
  { j with sources := "" :: j.sources }

def add (j : Joined) (f : Fragment) (isLast : Bool) : Except Regex.Rejection Joined := do
  let source := stripAnchors f.source
  match ← Regex.compile? source with
  | some regex => return j.addUsable f source regex.groupCount (isLast && f.loop)
  | none => return j.addEmpty

def addAll : Joined → List Fragment → Except Regex.Rejection Joined
  | j, [] => .ok j
  | j, f :: rest => do addAll (← j.add f rest.isEmpty) rest

def source (j : Joined) : String :=
  "\\n".intercalate j.sources.reverse

end Joined

/-- Joins the patterns; malformed ones are left empty, and other rejections are passed on. -/
def compile (m : Matcher) : Except Regex.Rejection CompiledMatcher := do
  let joined ← Joined.addAll { offsets := m.defaults } m.fragments
  let regex ← if joined.usable then Regex.compile? joined.source { multiline := true } else .ok none
  return {
    source := joined.source
    groupCount := joined.groupCount
    offsets := joined.offsets.supplied
    regex }

end Matcher

end ProblemMatcher
