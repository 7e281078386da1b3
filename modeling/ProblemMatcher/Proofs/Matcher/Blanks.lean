import ProblemMatcher.Proofs.Matcher.Joining

/-!
# Malformed patterns and empty ones

A pattern that is malformed keeps its place in the chain and gives it nothing: the matcher compiles
as if the pattern had been declared with an empty source, no fields and no repetition. The two
differ in one point only, since an empty pattern counts as one that can be used and a malformed one
does not; so one usable pattern is all that the equality asks for.

1. `add_blanked`: what one pattern adds, up to whether anything usable was added so far.
2. `addAll_blanked`: the same for a chain, by induction on it, wherever its malformed patterns are.
3. `compile_withoutBroken`: the compiled matcher.
-/

namespace ProblemMatcher

namespace Fragment

/-- The pattern without its anchors is malformed. -/
def isBroken (f : Fragment) : Bool :=
  match Regex.compile? (Matcher.stripAnchors f.source) with
  | .ok none => true
  | _ => false

/-- The empty pattern, which declares no field and does not repeat. -/
def blank : Fragment where
  source := ""

/-- The pattern, or the empty one in its place if it is malformed. -/
def blanked (f : Fragment) : Fragment :=
  if f.isBroken then blank else f

end Fragment

namespace Matcher

/-- The matcher with the empty pattern in place of each malformed one. -/
def withoutBroken (m : Matcher) : Matcher :=
  { m with fragments := m.fragments.map Fragment.blanked }

namespace Joined

/-- The patterns joined so far, and a usable one more among them if `more` is set. -/
def marked (j : Joined) (more : Bool) : Joined :=
  { j with usable := j.usable || more }

@[simp] theorem marked_false (j : Joined) : j.marked false = j := by
  unfold marked
  rw [Bool.or_false]

theorem marked_of_usable {j : Joined} (h : j.usable = true) (more : Bool) : j.marked more = j := by
  unfold marked
  rw [h, Bool.true_or, ← h]

theorem marked_marked (j : Joined) (more more' : Bool) :
    (j.marked more).marked more' = j.marked (more || more') := by
  unfold marked
  rw [Bool.or_assoc]

theorem add_eq_error {f : Fragment} {cause : Regex.Rejection}
    (h : Regex.compile? (stripAnchors f.source) = .error cause) (j : Joined) (isLast : Bool) :
    j.add f isLast = .error cause := by
  unfold add
  simp only [h]
  rfl

theorem next_marked (j : Joined) (more : Bool) (f : Fragment) (looped : Bool) :
    (j.marked more).next f looped = (j.next f looped).marked more := by
  unfold next
  cases f.groups? <;> rfl

theorem add_marked (j : Joined) (more : Bool) (f : Fragment) (isLast : Bool) :
    (j.marked more).add f isLast = (j.add f isLast).map (·.marked more) := by
  cases hcompile : Regex.compile? (stripAnchors f.source) with
  | error cause =>
    rw [add_eq_error hcompile, add_eq_error hcompile]
    rfl
  | ok regex? =>
    rw [add_eq_next ⟨regex?, hcompile⟩, add_eq_next ⟨regex?, hcompile⟩, next_marked]
    rfl

/-- The empty pattern leaves everything as it is, apart from being usable. -/
theorem add_blank (j : Joined) (isLast : Bool) :
    j.add Fragment.blank isLast = .ok (j.addEmpty.marked true) := by
  have hgroups : Fragment.blank.groups? = some 0 := rfl
  rw [add_eq_next ⟨_, rfl⟩, show Fragment.blank.loop = false from rfl, Bool.and_false]
  unfold next marked
  rw [hgroups, Bool.or_true]
  rfl

theorem add_of_isBroken {f : Fragment} (h : f.isBroken = true) (j : Joined) (isLast : Bool) :
    j.add f isLast = .ok j.addEmpty := by
  unfold Fragment.isBroken at h
  split at h
  · rename_i hcompile
    have hgroups : f.groups? = none := Fragment.groups?_of_compile? hcompile
    rw [add_eq_next ⟨none, hcompile⟩]
    unfold next
    rw [hgroups]
  · cases h

/-- A malformed pattern adds what the empty one does. -/
theorem add_blanked (j : Joined) (more : Bool) (f : Fragment) (isLast : Bool) :
    (j.marked more).add f.blanked isLast =
      (j.add f isLast).map (·.marked (more || f.isBroken)) := by
  unfold Fragment.blanked
  cases hbroken : f.isBroken with
  | true =>
    rw [if_pos rfl, add_blank, add_of_isBroken hbroken]
    exact congrArg Except.ok (marked_marked j.addEmpty more true)
  | false =>
    rw [if_neg Bool.false_ne_true, Bool.or_false, add_marked]

/-- By induction on the chain: with the empty pattern in place of each malformed one, the chain
amounts to the same, apart from what counts as usable. -/
theorem addAll_blanked (j : Joined) (more : Bool) (fragments : List Fragment) :
    (j.marked more).addAll (fragments.map Fragment.blanked) =
      (j.addAll fragments).map (·.marked (more || fragments.any Fragment.isBroken)) := by
  induction fragments generalizing j more with
  | nil =>
    rw [List.any_nil, Bool.or_false]
    rfl
  | cons f rest ih =>
    rw [List.map_cons, addAll, addAll, List.isEmpty_map, add_blanked, List.any_cons,
      ← Bool.or_assoc]
    cases j.add f rest.isEmpty with
    | error cause => rfl
    | ok j' => exact ih j' (more || f.isBroken)

theorem usable_of_add {j j' : Joined} {f : Fragment} {isLast : Bool} (h : j.add f isLast = .ok j') :
    j'.usable = (j.usable || f.isUsable) := by
  cases hcompile : Regex.compile? (stripAnchors f.source) with
  | error cause =>
    rw [add_eq_error hcompile] at h
    cases h
  | ok regex? =>
    rw [add_eq_next ⟨regex?, hcompile⟩] at h
    cases h
    exact next_usable j f (isLast && f.loop)

theorem usable_of_addAll {j j' : Joined} {fragments : List Fragment}
    (h : j.addAll fragments = .ok j') :
    j'.usable = (j.usable || fragments.any Fragment.isUsable) := by
  induction fragments generalizing j with
  | nil =>
    cases h
    exact (Bool.or_false _).symm
  | cons f rest ih =>
    rw [addAll] at h
    cases hadd : j.add f rest.isEmpty with
    | error cause =>
      rw [hadd] at h
      cases h
    | ok next =>
      rw [hadd] at h
      rw [ih h, usable_of_add hadd, List.any_cons, Bool.or_assoc]

end Joined

variable {m : Matcher}

/-- **A malformed pattern is an empty one.** If some pattern is usable, the matcher compiles to the
same source, groups, fields and regular expression, or is rejected for the same reason, with the
empty pattern in place of each malformed one. -/
theorem compile_withoutBroken (h : m.fragments.any Fragment.isUsable = true) :
    m.withoutBroken.compile = m.compile := by
  have hjoined : Joined.addAll { offsets := m.defaults } (m.fragments.map Fragment.blanked) =
      Joined.addAll { offsets := m.defaults } m.fragments := by
    have hblanked := Joined.addAll_blanked { offsets := m.defaults } false m.fragments
    rw [Joined.marked_false] at hblanked
    rw [hblanked]
    cases hall : Joined.addAll { offsets := m.defaults } m.fragments with
    | error cause => rfl
    | ok j =>
      have husable : j.usable = true := by
        rw [Joined.usable_of_addAll hall, h, Bool.or_true]
      exact congrArg Except.ok (Joined.marked_of_usable husable _)
  unfold compile
  show (Joined.addAll { offsets := m.defaults } (m.fragments.map Fragment.blanked) >>= _) = _
  rw [hjoined]

/-- Malformed patterns at both ends and in the middle, which declare fields and repeat. -/
def brokenThroughout : Matcher where
  fragments := [
    { source := "^)", fields := .ofList [(.file, 1)] },
    { source := "(a)", fields := .ofList [(.file, 1), (.code, -1)] },
    { source := "(?<", fields := .ofList [(.file, -1), (.code, 2)], loop := true },
    { source := "*$", fields := .ofList [(.message, 1)], loop := true }]
  defaults := .single

theorem compile_withoutBroken_brokenThroughout :
    brokenThroughout.fragments.any Fragment.isUsable = true ∧
      brokenThroughout.fragments.map Fragment.isBroken = [true, false, true, true] ∧
      brokenThroughout.withoutBroken.compile = brokenThroughout.compile := by
  have h : brokenThroughout.fragments.any Fragment.isUsable = true := rfl
  exact ⟨h, rfl, compile_withoutBroken h⟩

end Matcher

end ProblemMatcher
