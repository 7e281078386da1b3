import ProblemMatcher.Proofs.Scan.Isolation

/-!
# What a scan is made of

A scan by some matchers and then by others is the two scans after one another. When it returns, it
has of each matcher what a scan by that matcher alone returns, at most one diagnostic.
-/

namespace ProblemMatcher

variable {text : Array Char}

/-- A scan goes on where it could have ended; one that breaks off does so for the first reason. -/
theorem scanDocument_append [Engine] (text : Array Char) (before after : List Matcher) :
    scanDocument text (before ++ after) = do
      let found ← scanDocument text before
      let others ← scanDocument text after
      return found ++ others := by
  induction before with
  | nil => exact (bind_pure (scanDocument text after)).symm
  | cons m rest ih =>
    simp only [List.cons_append, scanDocument, ih, bind_assoc, pure_bind, List.append_assoc]

namespace Matcher

/-- The diagnostics of a scan by one matcher alone, none if the scan does not return. -/
def contribution [Engine] (m : Matcher) (text : Array Char) : List Diagnostic :=
  match scanDocument text [m] with
  | .ok found => found
  | .error _ => []

variable {m : Matcher}

theorem contribution_eq [Engine] {part : List Diagnostic} (h : m.Contributes text part) :
    m.contribution text = part := by
  unfold contribution
  rw [scanDocument_singleton.mpr h]

/-- A matcher is tried once. -/
theorem length_contribution_le [Engine] (m : Matcher) (text : Array Char) :
    (m.contribution text).length ≤ 1 := by
  cases h : scanDocument text [m] with
  | error =>
    unfold contribution
    rw [h]
    exact Nat.zero_le 1
  | ok part =>
    have hpart := scanDocument_singleton.mp h
    rw [contribution_eq hpart]
    obtain ⟨c, capture?, diagnostic, -, -, rfl⟩ := hpart
    exact Option.length_toList_le

end Matcher

/-- A scan that returns has the diagnostics of each matcher in turn. -/
theorem eq_flatMap_of_scanDocument [Engine] {ms : List Matcher} {found : List Diagnostic}
    (h : scanDocument text ms = .ok found) : found = ms.flatMap (·.contribution text) := by
  induction ms generalizing found with
  | nil =>
    cases h
    rfl
  | cons m rest ih =>
    obtain ⟨part, others, hpart, hothers, rfl⟩ := scanDocument_cons.mp h
    rw [List.flatMap_cons, Matcher.contribution_eq hpart, ih hothers]

/-- So a scan whose matchers have all been judged returns unless a match of one is rejected. -/
theorem exists_scanDocument_iff_of_isJudged [Engine] {ms : List Matcher}
    (h : ∀ m ∈ ms, m.IsJudged) :
    (∃ found, scanDocument text ms = .ok found) ↔ ∀ m ∈ ms, m.IsUncrossed text := by
  rw [exists_scanDocument_iff]
  exact ⟨fun hall m hm => (hall m hm).2, fun hall m hm => ⟨h m hm, hall m hm⟩⟩

end ProblemMatcher
