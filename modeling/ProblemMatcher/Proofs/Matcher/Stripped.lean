import ProblemMatcher.Proofs.Live.Normalize
import ProblemMatcher.Proofs.Matcher.AnchorTokens
import ProblemMatcher.Proofs.Matcher.Joining

/-!
# Patterns without their anchors

The anchors at the ends of a pattern are taken off before patterns are joined. A pattern that is
well formed stays so, with the same groups and under the same modes; so a pattern that compiles as
it is written is usable in a matcher, and a number in its field table means the same group.

1. `parse_stripChars`, `compile_stripAnchors`: the pattern without its anchors.
2. `stripAnchors_keeps_groups`: as many groups, with the same numbers and the same in them.
-/

namespace ProblemMatcher.Matcher

open Regex

variable {given : Flags} {source : List Char} {parsed : Parsed}

theorem parse_dropLeadingAnchor (h : parse given source = .ok parsed) :
    ∃ parsed', parse given (dropLeadingAnchor source) = .ok parsed' ∧
      parsed.KeepsGroups parsed' := by
  unfold dropLeadingAnchor
  split
  · exact parse_of_caret h
  · exact ⟨parsed, h, .refl parsed⟩

theorem parse_dropFinalAnchor (h : parse given source = .ok parsed) :
    ∃ parsed', parse given (dropFinalAnchor source.reverse).reverse = .ok parsed' ∧
      parsed.KeepsGroups parsed' := by
  rw [dropFinalAnchor_reverse]
  split_ifs with hdollar
  · obtain ⟨s, rfl, hlone⟩ := exists_concat_of_endsInDollar hdollar
    rw [List.dropLast_concat]
    exact parse_of_dollar hlone h
  · exact ⟨parsed, h, .refl parsed⟩

/-- A pattern that is well formed is so without its anchors. -/
theorem parse_stripChars (h : parse given source = .ok parsed) :
    ∃ parsed', parse given (stripChars source) = .ok parsed' ∧ parsed.KeepsGroups parsed' := by
  obtain ⟨middle, hmiddle, hkeeps⟩ := parse_dropLeadingAnchor h
  obtain ⟨parsed', hparsed', hkeeps'⟩ := parse_dropFinalAnchor hmiddle
  exact ⟨parsed', hparsed', hkeeps.trans hkeeps'⟩

theorem exists_parsed_stripAnchors {source : String} {flags : Flags} {regex : Regex}
    (h : Regex.compile source flags = .ok regex) :
    ∃ parsed parsed', regex = ofParsed source parsed ∧ parsed.KeepsGroups parsed' ∧
      Regex.compile (stripAnchors source) flags = .ok (ofParsed (stripAnchors source) parsed') := by
  obtain ⟨parsed, hparsed, rfl⟩ := Regex.compile_eq_ok.mp h
  obtain ⟨parsed', hparsed', hkeeps⟩ := parse_stripChars hparsed
  refine ⟨parsed, parsed', rfl, hkeeps, Regex.compile_eq_ok.mpr ⟨parsed', ?_, rfl⟩⟩
  rw [stripAnchors, String.toList_ofList]
  exact hparsed'

/-- Without its anchors a pattern compiles as well, with the same groups and modes. -/
theorem compile_stripAnchors {source : String} {flags : Flags} {regex : Regex}
    (h : Regex.compile source flags = .ok regex) :
    ∃ stripped, Regex.compile (stripAnchors source) flags = .ok stripped ∧
      stripped.groupCount = regex.groupCount ∧ stripped.flags = regex.flags := by
  obtain ⟨parsed, parsed', rfl, hkeeps, hstripped⟩ := exists_parsed_stripAnchors h
  exact ⟨_, hstripped, hkeeps.groupCount, hkeeps.flags⟩

/-- **Anchors are not part of anything.** A pattern that compiles does so without its anchors, and
neither loses a group nor gets another one: there are as many, and each number stands for a group
with the same tree in it. -/
theorem stripAnchors_keeps_groups {source : String} {flags : Flags} {regex : Regex}
    (h : Regex.compile source flags = .ok regex) :
    ∃ stripped, Regex.compile (stripAnchors source) flags = .ok stripped ∧
      stripped.groupCount = regex.groupCount ∧
      stripped.root.captures = regex.root.captures := by
  obtain ⟨parsed, parsed', rfl, hkeeps, hstripped⟩ := exists_parsed_stripAnchors h
  exact ⟨_, hstripped, hkeeps.groupCount, hkeeps.captures⟩

/-- A caret in one branch and a dollar sign in another, behind a backslash that is escaped. -/
theorem stripAnchors_keeps_groups_acrossBranches :
    stripAnchors "^(a)b|^(?P<n>(c)\\$|$)\\1{2}?\\\\$" = "(a)b|^(?P<n>(c)\\$|$)\\1{2}?\\\\" ∧
      ∃ regex stripped, Regex.compile "^(a)b|^(?P<n>(c)\\$|$)\\1{2}?\\\\$" = .ok regex ∧
        regex.groupCount = 3 ∧
        Regex.compile (stripAnchors "^(a)b|^(?P<n>(c)\\$|$)\\1{2}?\\\\$") = .ok stripped ∧
        stripped.groupCount = regex.groupCount ∧
        stripped.root.captures = regex.root.captures := by
  obtain ⟨regex, hregex, hcount⟩ :
      ∃ regex, Regex.compile "^(a)b|^(?P<n>(c)\\$|$)\\1{2}?\\\\$" = .ok regex ∧
        regex.groupCount = 3 := ⟨_, rfl, rfl⟩
  obtain ⟨stripped, hstripped⟩ := stripAnchors_keeps_groups hregex
  exact ⟨by decide, regex, stripped, hregex, hcount, hstripped⟩

end ProblemMatcher.Matcher
