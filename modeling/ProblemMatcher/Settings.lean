import ProblemMatcher.File.Path

/-!
# Settings

What a project can choose: whether previewed patterns get the modes they lack, how much of a sample
is looked at, and which file is the sample.
-/

namespace ProblemMatcher

structure Settings where
  /-- Previewed patterns look for all matches and treat lines as such. -/
  inject : Bool := true
  /-- How many characters of a sample are looked at; a negative number leaves that many out. -/
  maxChars : Int := 1000000
  sample : Option Path := none
  deriving Repr, DecidableEq

namespace Settings

/-- The part of a text that is looked at. -/
def bound (s : Settings) (text : List Char) : List Char :=
  if 0 ≤ s.maxChars then text.take s.maxChars.toNat
  else text.take (text.length - s.maxChars.natAbs)

/-- A bound that is not negative keeps that many characters. -/
theorem bound_eq_take {s : Settings} {n : Nat} (h : s.maxChars = n) (text : List Char) :
    s.bound text = text.take n := by
  rw [bound, if_pos (by omega), h, Int.toNat_natCast]

end Settings

end ProblemMatcher
