import ProblemMatcher.Proofs.Regex.Local

/-!
# The ends of a tree

Running a tree tries its ways in order of preference, each with all that comes after it, and keeps
the first that succeeds. For a local tree all of this comes down to a list: the places where the
tree can end, in the order in which they are tried. Marks and noted places make no difference to
which of them succeeds first.

1. `Answers`: a continuation whose success depends on the place alone.
2. `ends`: the places where a tree can end.
3. `loopRun_answers`: a repetition tries its ends in order if its body does.
-/

namespace ProblemMatcher.Regex

/-! ## Outcomes -/

/-- The place an outcome comes to. -/
def Outcome.stop? : Outcome → Option Nat
  | .matched s => some s.pos
  | .failed _ _ => none

/-- Whether and where the continuation succeeds depends on the place alone. -/
def Answers (next : Continuation) (f : Nat → Option Nat) : Prop :=
  ∀ s, (next s).stop? = f s.pos

/-- Where the continuation succeeds, the set stands. -/
def Follows (text : Array Char) (after : Option CharSet) (f : Nat → Option Nat) : Prop :=
  ∀ set, after = some set → ∀ pos, f pos ≠ none → text[pos]?.any set.holds = true

theorem follows_none (text : Array Char) (f : Nat → Option Nat) : Follows text none f :=
  nofun

theorem stop?_noting (o : Outcome) (pos : Nat) : (o.noting pos).stop? = o.stop? := by
  cases o <;> rfl

theorem stop?_orElse (s : State) (inRound : Bool) (o : Outcome) {next : Continuation}
    {f : Nat → Option Nat} (h : Answers next f) :
    (s.orElse inRound o next).stop? = o.stop?.or (f s.pos) := by
  cases o with
  | matched found => rfl
  | failed noted marks => exact h (s.retry inRound noted marks)

theorem answers_done : Answers done some :=
  fun _ => rfl

theorem findSome?_flatMap {α β γ : Type} (l : List α) (g : α → List β) (f : β → Option γ) :
    (l.flatMap g).findSome? f = l.findSome? fun a => (g a).findSome? f := by
  induction l with
  | nil => rfl
  | cons a rest ih =>
    rw [List.flatMap_cons, List.findSome?_append, ih, List.findSome?_cons]
    cases (g a).findSome? f <;> rfl

namespace Node

/-! ## The ends of a tree -/

/-- The end behind one character. -/
def oneEnd (text : Array Char) (set : CharSet) (pos : Nat) : List Nat :=
  if text[pos]?.any set.holds then [pos + 1] else []

/-- Exactly so many rounds. -/
def repeatEnds (body : Nat → List Nat) : Nat → Nat → List Nat
  | 0, pos => [pos]
  | n + 1, pos => (body pos).flatMap (repeatEnds body n)

/-- Optional rounds, as few as possible first or as many. -/
def optionalEnds (body : Nat → List Nat) (fewest : Bool) :
    Nat → Option Nat → Option Nat → Nat → List Nat
  | 0, _, _, pos => [pos]
  | bound + 1, left, last, pos =>
    if isSpent left last (.start pos) then [pos]
    else
      let further :=
        (body pos).flatMap (optionalEnds body fewest bound (left.map (· - 1)) (some pos))
      bif fewest then pos :: further else further ++ [pos]

/-- The ends of a repetition. What is repeated for good ends where it would end first. -/
def loopEnds (bound least : Nat) (most : Option Nat) (greed : Greed) (body : Nat → List Nat)
    (pos : Nat) : List Nat :=
  let all := (repeatEnds body least pos).flatMap
    (optionalEnds body (greed == .reluctant) bound (most.map (· - least)) none)
  if greed = .possessive then all.take 1 else all

/-- Where a tree can end that begins at a place, in the order in which the ends are tried. -/
def ends (text : Array Char) : Node → Nat → List Nat
  | .empty, pos => [pos]
  | .one set, pos => oneEnd text set pos
  | .seq first second, pos => (first.ends text pos).flatMap (second.ends text)
  | .either first rest, pos => first.ends text pos ++ rest.ends text pos
  | .group _ body, pos | .scope body, pos => body.ends text pos
  | .atomic body, pos => (body.ends text pos).take 1
  | .loop least most greed body, pos =>
    if body.set?.isSome && most.any (· < least) then []
    else loopEnds (roundBound text) least most greed (body.ends text) pos
  | .never, _ | .place _, _ | .backref _ _, _ | .given _ _ _, _ | .look _ _ _, _ => []

theorem lt_size_of_any {text : Array Char} {set : CharSet} {pos : Nat}
    (h : text[pos]?.any set.holds = true) : pos < text.size := by
  by_contra hsize
  rw [Array.getElem?_eq_none (Nat.le_of_not_lt hsize)] at h
  cases h

theorem optionalEnds_of_isSpent {left last : Option Nat} {pos : Nat}
    (h : isSpent left last (.start pos) = true) (body : Nat → List Nat) (fewest : Bool)
    (bound : Nat) : optionalEnds body fewest bound left last pos = [pos] := by
  cases bound with
  | zero => rfl
  | succ bound => rw [optionalEnds, if_pos h]

theorem optionalEnds_succ {left last : Option Nat} {pos : Nat}
    (h : isSpent left last (.start pos) = false) (body : Nat → List Nat) (fewest : Bool)
    (bound : Nat) :
    optionalEnds body fewest (bound + 1) left last pos =
      bif fewest then
        pos :: (body pos).flatMap (optionalEnds body fewest bound (left.map (· - 1)) (some pos))
      else
        (body pos).flatMap (optionalEnds body fewest bound (left.map (· - 1)) (some pos)) ++
          [pos] := by
  rw [optionalEnds, h]
  rfl

/-- With as few rounds as possible first, the nearest end is the place itself. -/
theorem head_optionalEnds (body : Nat → List Nat) (bound : Nat) (left last : Option Nat)
    (pos : Nat) : (optionalEnds body true bound left last pos).head? = some pos := by
  cases bound with
  | zero => rfl
  | succ bound =>
    rw [optionalEnds]
    split_ifs <;> rfl

/-! ## Rounds -/

section

variable {text : Array Char} {body : Runner} {ends : Nat → List Nat}
  (hbody : ∀ next f, Answers next f → Answers (body next) fun pos => (ends pos).findSome? f)
include hbody

theorem rounds_answers {next : Continuation} {f : Nat → Option Nat} (h : Answers next f) (n : Nat) :
    Answers (rounds body next n) fun pos => (repeatEnds ends n pos).findSome? f := by
  induction n with
  | zero =>
    intro s
    show (next s).stop? = [s.pos].findSome? f
    rw [List.findSome?_singleton, h s]
  | succ n ih =>
    intro s
    show _ = ((ends s.pos).flatMap (repeatEnds ends n)).findSome? f
    rw [rounds, stop?_noting, hbody _ _ ih s.note, findSome?_flatMap]
    rfl

theorem mostRounds_answers {next : Continuation} {f : Nat → Option Nat} (h : Answers next f)
    (bound : Nat) (left last : Option Nat) :
    Answers (mostRounds body next bound left last)
      fun pos => (optionalEnds ends false bound left last pos).findSome? f := by
  have hstop : ∀ s : State, ((next s.note).noting s.pos).stop? = [s.pos].findSome? f := by
    intro s
    rw [stop?_noting, h s.note, List.findSome?_singleton]
    rfl
  induction bound generalizing left last with
  | zero => exact hstop
  | succ bound ih =>
    intro s
    have hspent : isSpent left last s = isSpent left last (.start s.pos) := rfl
    show _ = (optionalEnds ends false (bound + 1) left last s.pos).findSome? f
    rw [mostRounds, hspent]
    -- whether a further round may begin depends on the place alone, as the ends say
    cases hs : isSpent left last (.start s.pos) with
    | true =>
      rw [optionalEnds_of_isSpent hs]
      exact hstop s
    | false =>
      have hround := hbody _ _ (ih (left.map (· - 1)) (some s.pos)) s.note
      change _ = ((ends s.pos).findSome? fun pos =>
        (optionalEnds ends false bound (left.map (· - 1)) (some s.pos) pos).findSome? f) at hround
      rw [optionalEnds_succ hs, cond_false, List.findSome?_append, findSome?_flatMap, ← hstop s,
        ← hround, if_neg Bool.false_ne_true]
      cases body (mostRounds body next bound (left.map (· - 1)) (some s.pos)) s.note <;> rfl

theorem fewestRounds_answers (inRound : Bool) {next : Continuation} {f : Nat → Option Nat}
    (h : Answers next f) (bound : Nat) (left last : Option Nat) :
    Answers (fewestRounds inRound body next bound left last)
      fun pos => (optionalEnds ends true bound left last pos).findSome? f := by
  have hstop : ∀ s : State, (next s.note).stop? = f s.pos := fun s => h s.note
  induction bound generalizing left last with
  | zero =>
    intro s
    show _ = [s.pos].findSome? f
    rw [fewestRounds, stop?_noting, hstop, List.findSome?_singleton]
  | succ bound ih =>
    intro s
    have hnow := hstop s
    show _ = (optionalEnds ends true (bound + 1) left last s.pos).findSome? f
    rw [fewestRounds]
    obtain ⟨rest, hrest⟩ :=
      List.head?_eq_some_iff.mp (head_optionalEnds ends (bound + 1) left last s.pos)
    -- what comes after is tried first, and the nearest end is the place itself
    cases hn : next s.note with
    | matched found =>
      rw [hn] at hnow
      rw [hrest, List.findSome?_cons, ← hnow]
      rfl
    | failed noted marks =>
      rw [hn] at hnow
      have hspent : isSpent left last (s.retry inRound s.pos marks) =
        isSpent left last (.start s.pos) := rfl
      simp only [hspent]
      cases hs : isSpent left last (.start s.pos) with
      | true =>
        rw [optionalEnds_of_isSpent hs, List.findSome?_cons, ← hnow]
        rfl
      | false =>
        have hround := hbody _ _ (ih (left.map (· - 1)) (some s.pos)) (s.retry inRound s.pos marks)
        rw [optionalEnds_succ hs, cond_true, List.findSome?_cons, ← hnow, findSome?_flatMap,
          if_neg Bool.false_ne_true, stop?_noting]
        exact hround

/-- A repetition that may be taken back. -/
theorem loopRun_answers [Engine] {next : Continuation} {f : Nat → Option Nat} (h : Answers next f)
    (inRound : Bool) (least : Nat) (most : Option Nat) {greed : Greed}
    (hgreed : greed ≠ .possessive) :
    Answers (loopRun text inRound least most greed body next)
      fun pos => (loopEnds (roundBound text) least most greed ends pos).findSome? f := by
  cases greed with
  | greedy =>
    intro s
    refine (rounds_answers hbody (mostRounds_answers hbody h (roundBound text)
      (most.map (· - least)) none) least s).trans ?_
    exact (findSome?_flatMap _ _ _).symm
  | reluctant =>
    intro s
    refine (rounds_answers hbody (fewestRounds_answers hbody inRound h (roundBound text)
      (most.map (· - least)) none) least s).trans ?_
    exact (findSome?_flatMap _ _ _).symm
  | possessive => exact absurd rfl hgreed

end

end Node

end ProblemMatcher.Regex
