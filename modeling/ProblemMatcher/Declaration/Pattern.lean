import ProblemMatcher.Declaration
import ProblemMatcher.Live
import ProblemMatcher.Matcher.Compile

/-!
# The pattern of a declaration

What is tried when a declaration is previewed. A chain is known by its place among the chains of the
document; a single pattern is tried as it is written, with the fields of the first matcher that has
the same source.
-/

namespace ProblemMatcher.Declaration

/-- The place of a chain among the chains of a document. -/
def chainIndex (d : Declaration) (ds : List Declaration) : Nat :=
  (ds.filter isChain).findIdx (· = d)

/-- The pattern of a matcher, joined. -/
def ofChain (m : Matcher) : Except Regex.Rejection (Option LivePattern) := do
  let compiled ← m.compile
  return compiled.regex.map fun regex => { regex, offsets := compiled.offsets }

/-- The first matcher of a single pattern with this source. -/
def matcherOf? (source : String) (ms : List Matcher) : Option Matcher :=
  ms.find? fun m => !m.chained && m.fragments.head?.map (·.source) == some source

/-- The fields for a source: those of its matcher, or the usual ones. -/
def offsetsOf (source : String) (ms : List Matcher) : Except Regex.Rejection FieldTable :=
  match matcherOf? source ms with
  | some m => m.compile.map (·.offsets)
  | none => .ok .single

/-- The pattern to try for one of the declarations of a document with these matchers. -/
def pattern? (d : Declaration) (ds : List Declaration) (ms : List Matcher) :
    Except Regex.Rejection (Option LivePattern) :=
  match d.source with
  | none =>
    match (ms.filter (·.chained))[d.chainIndex ds]? with
    | some m => ofChain m
    | none => .ok none
  | some source => do LivePattern.ofSource source "" (← offsetsOf source ms)

end ProblemMatcher.Declaration
