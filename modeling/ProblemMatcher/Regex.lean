import ProblemMatcher.Regex.Reader
import ProblemMatcher.Regex.Search

/-!
# Regular expressions

A regular expression is compiled from its source under given modes, or rejected; a search finds its
leftmost match from a place of a text on. Whatever a pattern says about its surroundings is seen
relative to the whole text, not to the place where the search starts.
-/

namespace ProblemMatcher

structure Regex where
  source : String
  /-- The modes in force, those that the source turns on included. -/
  flags : Regex.Flags
  groupCount : Nat
  root : Regex.Node
  /-- The least number of characters that the form of the pattern asks for. -/
  least : Nat
  deriving Repr, DecidableEq

namespace Regex

def ofParsed (source : String) (parsed : Parsed) : Regex where
  source
  flags := parsed.flags
  groupCount := parsed.groupCount
  root := parsed.root
  least := parsed.least

def compile (source : String) (flags : Flags := .plain) : Except Rejection Regex :=
  (parse flags source.toList).map (ofParsed source)

/-- The regular expression of a source, if the source is well formed; any other rejection is passed
on. -/
def compile? (source : String) (flags : Flags := .plain) : Except Rejection (Option Regex) :=
  match compile source flags with
  | .ok regex => .ok (some regex)
  | .error (.malformed _) => .ok none
  | .error cause => .error cause

def opening (r : Regex) : Opening :=
  r.root.opening r.flags.ascii r.least

/-- The first place from `pos` on with a match, its end and its marks. -/
def find [Engine] (r : Regex) (text : Array Char) (pos : Nat) : Option (Nat × Nat × Marks) :=
  if text.size < pos + r.least then none
  else r.root.searchFrom r.opening text (r.opening.limit r.least text.size - pos) pos

/-- A group of a match ends before it begins. -/
def hasCrossedGroup (r : Regex) (marks : Marks) : Bool :=
  (List.range r.groupCount).any fun i => marks.isCrossed (i + 1)

/-- The match with the least start that is at least `pos`. A match with a crossed group is
rejected. -/
def search [Engine] (r : Regex) (text : Array Char) (pos : Nat := 0) :
    Except Rejection (Option Match) :=
  match r.find text pos with
  | none => .ok none
  | some (start, stop, marks) =>
    if r.hasCrossedGroup marks then .error .crossedGroup
    else .ok (some {
      start, stop, groups := (List.range r.groupCount).map fun i => marks.span? (i + 1) })

/-- The text between two places. -/
def slice (text : Array Char) (start stop : Nat) : String :=
  String.ofList (text.extract start stop).toList

/-- The text of a group, the whole match being group 0. -/
def Match.group? (m : Match) (text : Array Char) : Nat → Option String
  | 0 => some (slice text m.start m.stop)
  | index + 1 => ((m.groups[index]?).join).map fun (start, stop) => slice text start stop

end Regex

end ProblemMatcher
