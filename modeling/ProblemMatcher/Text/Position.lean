import ProblemMatcher.Text.Boundaries

/-!
# Positions

A place in a text as a line and a column, both counted from 0. Lines end at line feeds. A place
before the text is put on line -1, with its column counted from the start of the last line.
-/

namespace ProblemMatcher.Text

structure Position where
  line : Int
  column : Int
  deriving Repr, DecidableEq

/-- Where the lines after the first one start, for a text whose first character is at `place`. -/
def startsAfterBreaks : Nat → List Char → List Nat
  | _, [] => []
  | place, c :: rest =>
    if c = '\n' then (place + 1) :: startsAfterBreaks (place + 1) rest
    else startsAfterBreaks (place + 1) rest

/-- Where each line starts. -/
def lineStarts (text : List Char) : List Nat :=
  0 :: startsAfterBreaks 0 text

/-- The position of a place, given where the lines start. -/
def positionIn (starts : Array Nat) (offset : Int) : Position :=
  if offset < 0 then ⟨-1, offset - starts.back?.getD 0⟩
  else
    let line := countUpTo starts offset.toNat - 1
    ⟨line, offset - starts.getD line 0⟩

def positionAt (text : List Char) (offset : Int) : Position :=
  positionIn (lineStarts text).toArray offset

end ProblemMatcher.Text
