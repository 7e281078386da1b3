import ProblemMatcher.Field

/-!
# Problem matchers

A matcher describes the shape of one diagnostic in the output of a tool: one pattern for each line
it spreads over. Each pattern numbers its groups from 1 on its own.
-/

namespace ProblemMatcher

structure Fragment where
  source : String
  /-- Groups of this pattern alone; a negative index removes the field. -/
  fields : FieldTable := .empty
  /-- The pattern matches one or more lines. Only the last pattern of a matcher may do so. -/
  loop : Bool := false

structure Matcher where
  fragments : List Fragment
  /-- The table under those of the patterns. -/
  defaults : FieldTable := .empty
  name : String := ""
  /-- Declared as a list of patterns, even if of one. -/
  chained : Bool := false

namespace Matcher

/-- The matcher of one pattern over the usual table. -/
def single (source : String) (fields : FieldTable := .empty) (name : String := "") : Matcher where
  fragments := [{ source, fields }]
  defaults := .single
  name

end Matcher

end ProblemMatcher
