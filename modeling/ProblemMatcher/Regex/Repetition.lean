import ProblemMatcher.Regex.Engine

/-!
# Repetitions

A repetition first runs its least count. After that a round may begin only at another place than
the one where the round before began, so a round that takes up nothing is the last one; the number
of places bounds the number of rounds.

The rounds of a possessive repetition are not taken back. It ends with the first round that fails,
or with one after which the engine begins no further round.

A repetition of one character counts how far it may go. It then steps back from there, or on from
its least count, to where the rest of the pattern matches. If the rest begins with a literal, only
the places where that character stands are tried on the way back.
-/

namespace ProblemMatcher.Regex

/-- More rounds than a repetition can have. -/
def roundBound (text : Array Char) : Nat :=
  2 * (text.size + 2)

/-- No further round may begin. -/
def isSpent (left : Option Nat) (last : Option Nat) (s : State) : Bool :=
  left == some 0 || last == some s.pos

/-- Exactly so many rounds. -/
def rounds (body : Runner) (next : Continuation) : Nat → State → Outcome
  | 0, s => next s
  | n + 1, s => (body (rounds body next n) s.note).noting s.pos

/-- Optional rounds, as many as possible first. -/
def mostRounds (body : Runner) (next : Continuation) :
    Nat → Option Nat → Option Nat → State → Outcome
  | 0, _, _, s => (next s.note).noting s.pos
  | bound + 1, left, last, s =>
    if isSpent left last s then (next s.note).noting s.pos
    else
      match body (mostRounds body next bound (left.map (· - 1)) (some s.pos)) s.note with
      | .matched done => .matched done
      | .failed _ _ => (next s.note).noting s.pos

/-- Optional rounds, as few as possible first. -/
def fewestRounds (inRound : Bool) (body : Runner) (next : Continuation) :
    Nat → Option Nat → Option Nat → State → Outcome
  | 0, _, _, s => (next s.note).noting s.pos
  | bound + 1, left, last, s =>
    match next s.note with
    | .matched done => .matched done
    | .failed _ marks =>
      -- the rest has failed here, so one more round is run from the same place
      let s := s.retry inRound s.pos marks
      if isSpent left last s then s.fail
      else (body (fewestRounds inRound body next bound (left.map (· - 1)) (some s.pos)) s).noting
        s.pos

/-- Exactly so many rounds, none of them taken back. -/
def fixedRounds (body : Runner) : Nat → State → Outcome
  | 0, s => .matched s
  | n + 1, s =>
    match body done s with
    | .matched s => fixedRounds body n s
    | .failed noted marks => .failed noted marks

/-- Rounds that are not taken back, until one fails. -/
def allRounds [engine : Engine] (size : Nat) (body : Runner) : Nat → Option Nat → State → State
  | 0, _, s => s
  | bound + 1, left, s =>
    if left == some 0 || !engine.release.mayBegin size s then s
    else
      match body done s with
      | .matched s' =>
        if engine.release.isLast s s' then s'
        else allRounds size body bound (left.map (· - 1)) s'
      | .failed noted _ => engine.release.afterFailure s noted

/-- A repetition of a tree. -/
def loopRun [Engine] (text : Array Char) (inRound : Bool) (least : Nat) (most : Option Nat)
    (greed : Greed) (body : Runner) : Runner := fun next s =>
  let left := most.map (· - least)
  let bound := roundBound text
  match greed with
  | .greedy => rounds body (mostRounds body next bound left none) least s
  | .reluctant => rounds body (fewestRounds inRound body next bound left none) least s
  | .possessive =>
    match fixedRounds body least s.note with
    | .matched s => next (allRounds text.size body bound left s)
    | .failed _ marks => .failed s.pos marks

/-! ## Repetitions of one character -/

/-- How many characters in a row, from a place on, are in the set; at most `limit`. -/
def runLength (text : Array Char) (set : CharSet) : Nat → Nat → Nat → Nat
  | 0, count, _ => count
  | limit + 1, count, pos =>
    match text[pos]? with
    | some c => if set.holds c then runLength text set limit (count + 1) (pos + 1) else count
    | none => count

/-- A character stands at a place, if there is one to stand there. -/
def standsAt (text : Array Char) (after : Option Nat) (pos : Nat) : Bool :=
  match after with
  | none => true
  | some code => (text[pos]?.map Char.toNat) == some code

/-- Tries the rest so many characters on. -/
def tryOn (next : Continuation) (s : State) (count : Nat) : Outcome :=
  next (s.goTo (s.pos + count))

/-- Tries the rest after `least + extra` characters and then after fewer, but not after fewer than
`least`. -/
def stepBack (text : Array Char) (inRound : Bool) (after : Option Nat) (next : Continuation)
    (least : Nat) : Nat → State → Outcome
  | 0, s =>
    s.orElse inRound
      (if standsAt text after (s.pos + least) then tryOn next s least else s.fail) State.fail
  | extra + 1, s =>
    let count := least + (extra + 1)
    s.orElse inRound
      (if standsAt text after (s.pos + count) then tryOn next s count else s.fail)
      (stepBack text inRound after next least extra)

/-- Tries the rest after `count` characters of a run and then after more, up to its end, which
`ending` notes. -/
def stepOn (inRound : Bool) (next : Continuation) (ending : Continuation) :
    Nat → Nat → State → Outcome
  | 0, count, s => s.orElse inRound (tryOn next s count) ending
  | more + 1, count, s =>
    s.orElse inRound (tryOn next s count) (stepOn inRound next ending more (count + 1))

/-- Looking up folded characters one by one notes the place behind the last that is in the set. -/
def counted (set : CharSet) (s : State) (count : Nat) : State :=
  if set.isFolded then { s with noted := s.pos + count } else s.note

/-- How many characters are left for a repetition to take. -/
def allowance (text : Array Char) (most : Option Nat) (s : State) : Nat :=
  match most with
  | some m => min m (text.size - s.pos)
  | none => text.size - s.pos

/-- A repetition of one character. -/
def charLoop (text : Array Char) (inRound : Bool) (after : Option Nat) (set : CharSet)
    (least : Nat) (most : Option Nat) (greed : Greed) : Runner := fun next s =>
  if text.size - s.pos < least then s.fail
  else
    let available := runLength text set (allowance text most s) 0 s.pos
    match greed with
    | .greedy =>
      let s := counted set s available
      if available < least then s.fail
      else stepBack text inRound after next least (available - least) s
    | .reluctant =>
      let s := counted set s (min least available)
      if available < least then s.fail
      else
        let further := runLength text set 1 available (s.pos + available)
        stepOn inRound next (fun s => (counted set { s with pos := s.pos + available }
          (further - available)).fail) (available - least) least s
    | .possessive =>
      let s := counted set s available
      if available < least then s.fail else next { s with pos := s.pos + available }

end ProblemMatcher.Regex
