import ProblemMatcher.Diagnostic.Extract

/-!
# Live patterns

A pattern under trial, with the letters of a regular expression literal as its modes: `g` looks for
all matches, `m`, `i` and `s` have their usual meaning, and other letters mean nothing.

`iterate` is the loop over all matches. It is stated over any search function, because what it does
depends on nothing else: the next search starts where the match ended, one further after a match
that is empty; and when that step reaches the end of the text, the loop ends. It also ends when a
search is rejected, and what was found before stays found.
-/

namespace ProblemMatcher

structure LivePattern where
  regex : Regex
  isGlobal : Bool := false
  offsets : FieldTable := .single

namespace LivePattern

def isMultiline (p : LivePattern) : Bool :=
  p.regex.flags.multiline

/-- The modes of the letters after a literal. -/
def flagsOfLetters (letters : List Char) : Regex.Flags where
  ignoreCase := letters.contains 'i'
  multiline := letters.contains 'm'
  dotAll := letters.contains 's'

/-- The pattern of a source and its letters, if the source is well formed. -/
def ofSource (source : String) (letters : String := "") (offsets : FieldTable := .single) :
    Except Regex.Rejection (Option LivePattern) :=
  (Regex.compile? source (flagsOfLetters letters.toList)).map fun regex? =>
    regex?.map fun regex => { regex, isGlobal := letters.toList.contains 'g', offsets }

/-- With `inject`, the pattern looks for all matches and treats lines as such. Modes it already has
stay, and so does its regular expression if it is multiline. -/
def normalize (p : LivePattern) (inject : Bool) : Except Regex.Rejection LivePattern :=
  if !inject || (p.isGlobal && p.isMultiline) then .ok p
  else if p.isMultiline then .ok { p with isGlobal := true }
  else
    (Regex.compile p.regex.source (p.regex.flags.union { multiline := true })).map fun regex =>
      { p with regex, isGlobal := true }

end LivePattern

/-- A match of a live pattern. -/
structure LiveMatch where
  start : Nat
  stop : Nat
  diagnostic : Option Diagnostic
  deriving Repr, DecidableEq

namespace Live

open Regex (Match)

/-- Where the next search starts after a match; nowhere if the step over an empty match reaches the
end of the text. -/
def nextCursor (size : Nat) (found : Match) : Option Nat :=
  if found.stop = found.start then
    if found.stop + 1 < size then some (found.stop + 1) else none
  else some found.stop

/-- What a loop over searches yields: what it found one after another, and why it broke off if it
did. -/
structure Yield (α : Type) where
  found : List α := []
  fault : Option Regex.Rejection := none
  deriving Repr, DecidableEq

namespace Yield

variable {α β : Type}

def map (f : α → β) (y : Yield α) : Yield β where
  found := y.found.map f
  fault := y.fault

/-- All that was found, if nothing broke off. -/
def all (y : Yield α) : Except Regex.Rejection (List α) :=
  match y.fault with
  | none => .ok y.found
  | some why => .error why

/-- The first things found; what comes after them is not looked at. -/
def take (y : Yield α) (n : Nat) : Except Regex.Rejection (List α) :=
  if n ≤ y.found.length then .ok (y.found.take n) else y.all

end Yield

/-- A way to search from a place on. -/
abbrev Search := Nat → Except Regex.Rejection (Option Match)

/-- The matches that a search function yields from a place on, at most `bound` many. -/
def iterateFrom (search : Search) (size : Nat) (isGlobal : Bool) : Nat → Nat → Yield Match
  | 0, _ => {}
  | bound + 1, cursor =>
    match search cursor with
    | .error why => { fault := some why }
    | .ok none => {}
    | .ok (some found) =>
      let rest : Yield Match := if isGlobal then
        match nextCursor size found with
        | some cursor => iterateFrom search size isGlobal bound cursor
        | none => {}
      else {}
      { rest with found := found :: rest.found }

/-- All matches in a text of the given size. Each step moves on by at least one place, so there are
at most as many matches as places. -/
def iterate (search : Search) (size : Nat) (isGlobal : Bool) : Yield Match :=
  iterateFrom search size isGlobal (size + 1) 0

end Live

namespace LivePattern

/-- The matches of a pattern, as it is, and their diagnostics. -/
def allMatches [Engine] (p : LivePattern) (text : Array Char) : Live.Yield LiveMatch :=
  (Live.iterate (fun pos => p.regex.search text pos) text.size p.isGlobal).map fun found =>
    { start := found.start
      stop := found.stop
      diagnostic := Capture.diagnostic? ⟨found, p.regex.groupCount, text⟩ p.offsets }

/-- The matches of a pattern after normalization. -/
def iterMatches [Engine] (p : LivePattern) (text : Array Char) (inject : Bool) :
    Except Regex.Rejection (Live.Yield LiveMatch) :=
  (p.normalize inject).map (·.allMatches text)

/-- The places of all matches, and the diagnostics of those that have one. -/
def run [Engine] (p : LivePattern) (text : Array Char) (inject : Bool) :
    Except Regex.Rejection (List (Nat × Nat) × List Diagnostic) := do
  let found ← (← p.iterMatches text inject).all
  return (found.map fun m => (m.start, m.stop), found.filterMap (·.diagnostic))

end LivePattern

end ProblemMatcher
