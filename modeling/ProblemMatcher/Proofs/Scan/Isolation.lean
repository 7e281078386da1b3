import ProblemMatcher.Proofs.Matcher.Composite
import ProblemMatcher.Scan

/-!
# One matcher does not disturb another

A malformed pattern leaves its place in a matcher empty, and a matcher without a regular expression
finds nothing. So a scan goes through all matchers, and each contributes what it contributes by
itself, as long as no pattern is rejected for anything but its grammar and no match has a crossed
group. Such a rejection is passed on, and the diagnostics of all matchers are lost with it.

1. `Matcher.exists_compile_iff`: when a matcher compiles.
2. `Matcher.not_isMalformed_of_compile`: it is never malformed when it does not.
3. `scanDocument_eq_ok`: a scan is made of what each matcher contributes, by induction on them.
4. `scanDocument_isolates`: when a scan returns, and what it returns.
-/

namespace ProblemMatcher

open Regex (Rejection)

namespace Regex

theorem not_isMalformed_of_compile? {source : String} {flags : Flags} {cause : Rejection}
    (h : compile? source flags = .error cause) : cause.isMalformed = false := by
  unfold compile? at h
  split at h
  · cases h
  · cases h
  · rename_i hmalformed _
    cases h
    cases cause with
    | malformed fault => exact absurd rfl (hmalformed fault)
    | countTooLarge | countTooLong | alphabetConflict | lookbehindTooWide | crossedGroup => rfl

/-- A search is rejected for one reason only. -/
theorem eq_crossedGroup_of_search [Engine] {r : Regex} {text : Array Char} {pos : Nat}
    {cause : Rejection} (h : r.search text pos = .error cause) : cause = .crossedGroup := by
  unfold search at h
  split at h
  · cases h
  · split_ifs at h
    cases h
    rfl

end Regex

namespace CompiledMatcher

theorem eq_crossedGroup_of_scan [Engine] {c : CompiledMatcher} {text : Array Char}
    {cause : Rejection} (h : c.scan text = .error cause) : cause = .crossedGroup := by
  unfold scan firstMatch? at h
  cases hregex : c.regex with
  | none =>
    rw [hregex] at h
    cases h
  | some regex =>
    rw [hregex] at h
    dsimp only at h
    cases hsearch : regex.search text with
    | error why =>
      rw [hsearch] at h
      cases h
      exact Regex.eq_crossedGroup_of_search hsearch
    | ok found? =>
      rw [hsearch] at h
      cases h

end CompiledMatcher

/-! ## When a matcher compiles -/

namespace Matcher

variable {m : Matcher}

/-- Each pattern of a matcher, and all of them joined, compiles or is malformed. -/
structure IsJudged (m : Matcher) : Prop where
  fragments : ∀ f ∈ m.fragments, f.IsJudged
  composite : ∃ regex?, m.compositeRegex? = .ok regex?

theorem exists_compile_iff : (∃ c, m.compile = .ok c) ↔ m.IsJudged := by
  constructor
  · rintro ⟨c, hc⟩
    exact ⟨isJudged_of_compile hc, c.regex, (eq_of_compile hc).1⟩
  · rintro ⟨hfragments, regex?, hcomposite⟩
    obtain ⟨c, hc, -⟩ := compile_of_composite hfragments hcomposite
    exact ⟨c, hc⟩

theorem not_isMalformed_of_addAll {j : Joined} {fragments : List Fragment} {cause : Rejection}
    (h : Joined.addAll j fragments = .error cause) : cause.isMalformed = false := by
  induction fragments generalizing j with
  | nil => cases h
  | cons f rest ih =>
    rcases bind_eq_error.mp h with hadd | ⟨j', -, hrest⟩
    · -- only compiling a pattern can fail; adding what it compiles to cannot
      rcases bind_eq_error.mp hadd with hcompile | ⟨regex?, -, hdone⟩
      · exact Regex.not_isMalformed_of_compile? hcompile
      · cases regex? <;> cases hdone
    · exact ih hrest

/-- A matcher that does not compile breaks no rule of the grammar. -/
theorem not_isMalformed_of_compile {cause : Rejection} (h : m.compile = .error cause) :
    cause.isMalformed = false := by
  rcases bind_eq_error.mp h with hj | ⟨j, -, h⟩
  · exact not_isMalformed_of_addAll hj
  · dsimp only at h
    split_ifs at h
    · rcases bind_eq_error.mp h with hregex | ⟨regex?, -, hdone⟩
      · exact Regex.not_isMalformed_of_compile? hregex
      · cases hdone
    · cases h

/-! ## What a matcher contributes -/

/-- The match of the matcher in a text is not rejected. -/
def IsUncrossed [Engine] (m : Matcher) (text : Array Char) : Prop :=
  ∀ c, m.compile = .ok c → c.scan text ≠ .error .crossedGroup

/-- The matcher compiles, but to no regular expression: no pattern of it is well formed, or all of
them joined are malformed. -/
def IsIdle (m : Matcher) : Prop :=
  ∃ c, m.compile = .ok c ∧ c.regex = none

/-- What the matcher adds to the diagnostics of a text. -/
def Contributes [Engine] (m : Matcher) (text : Array Char) (part : List Diagnostic) : Prop :=
  ∃ c capture? diagnostic, m.compile = .ok c ∧ c.scan text = .ok (capture?, diagnostic) ∧
    part = diagnostic.toList

theorem exists_contributes_iff [Engine] {text : Array Char} :
    (∃ part, m.Contributes text part) ↔ m.IsJudged ∧ m.IsUncrossed text := by
  constructor
  · rintro ⟨part, c, capture?, diagnostic, hc, hscan, -⟩
    refine ⟨exists_compile_iff.mp ⟨c, hc⟩, ?_⟩
    intro c' hc' hcrossed
    rw [hc] at hc'
    cases hc'
    rw [hscan] at hcrossed
    cases hcrossed
  · rintro ⟨hjudged, huncrossed⟩
    obtain ⟨c, hc⟩ := exists_compile_iff.mpr hjudged
    cases hscan : c.scan text with
    | error why =>
      obtain rfl := CompiledMatcher.eq_crossedGroup_of_scan hscan
      exact absurd hscan (huncrossed c hc)
    | ok found => exact ⟨_, c, found.1, found.2, hc, hscan, rfl⟩

theorem eq_nil_of_isIdle [Engine] {text : Array Char} {part : List Diagnostic} (h : m.IsIdle)
    (hpart : m.Contributes text part) : part = [] := by
  obtain ⟨c, hc, hregex⟩ := h
  obtain ⟨c', capture?, diagnostic, hc', hscan, rfl⟩ := hpart
  rw [hc] at hc'
  cases hc'
  unfold CompiledMatcher.scan CompiledMatcher.firstMatch? at hscan
  rw [hregex] at hscan
  cases hscan
  rfl

end Matcher

/-! ## All matchers -/

variable {text : Array Char}

theorem scanDocument_cons [Engine] {m : Matcher} {rest : List Matcher} {found : List Diagnostic} :
    scanDocument text (m :: rest) = .ok found ↔
      ∃ part others, m.Contributes text part ∧ scanDocument text rest = .ok others ∧
        found = part ++ others := by
  constructor
  · intro h
    obtain ⟨c, hc, h⟩ := bind_eq_ok.mp h
    obtain ⟨⟨capture?, diagnostic⟩, hscan, h⟩ := bind_eq_ok.mp h
    obtain ⟨others, hothers, h⟩ := bind_eq_ok.mp h
    cases h
    exact ⟨diagnostic.toList, others, ⟨c, capture?, diagnostic, hc, hscan, rfl⟩, hothers, rfl⟩
  · rintro ⟨part, others, ⟨c, capture?, diagnostic, hc, hscan, rfl⟩, hothers, rfl⟩
    refine bind_eq_ok.mpr ⟨c, hc, bind_eq_ok.mpr ⟨(capture?, diagnostic), hscan, ?_⟩⟩
    exact bind_eq_ok.mpr ⟨others, hothers, rfl⟩

/-- A scan returns what the matchers contribute, one after another. -/
theorem scanDocument_eq_ok [Engine] {ms : List Matcher} {found : List Diagnostic} :
    scanDocument text ms = .ok found ↔
      ∃ parts, List.Forall₂ (fun m part => m.Contributes text part) ms parts ∧
        found = parts.flatten := by
  induction ms generalizing found with
  | nil =>
    constructor
    · intro h
      cases h
      exact ⟨[], .nil, rfl⟩
    · rintro ⟨parts, hparts, rfl⟩
      cases hparts
      rfl
  | cons m rest ih =>
    rw [scanDocument_cons]
    constructor
    · rintro ⟨part, others, hpart, hothers, rfl⟩
      obtain ⟨parts, hparts, rfl⟩ := ih.mp hothers
      exact ⟨part :: parts, .cons hpart hparts, rfl⟩
    · rintro ⟨parts, hparts, rfl⟩
      cases hparts with
      | cons hpart hparts => exact ⟨_, _, hpart, ih.mpr ⟨_, hparts, rfl⟩, rfl⟩

/-- What a matcher contributes is what a scan by that matcher alone returns. -/
theorem scanDocument_singleton [Engine] {m : Matcher} {part : List Diagnostic} :
    scanDocument text [m] = .ok part ↔ m.Contributes text part := by
  rw [scanDocument_cons]
  constructor
  · rintro ⟨part, others, hpart, hothers, rfl⟩
    cases hothers
    rwa [List.append_nil]
  · intro hpart
    exact ⟨part, [], hpart, rfl, (List.append_nil part).symm⟩

theorem exists_scanDocument_iff [Engine] {ms : List Matcher} :
    (∃ found, scanDocument text ms = .ok found) ↔ ∀ m ∈ ms, m.IsJudged ∧ m.IsUncrossed text := by
  induction ms with
  | nil => exact ⟨fun _ => nofun, fun _ => ⟨[], rfl⟩⟩
  | cons m rest ih =>
    rw [List.forall_mem_cons, ← ih, ← Matcher.exists_contributes_iff]
    constructor
    · rintro ⟨found, h⟩
      obtain ⟨part, others, hpart, hothers, -⟩ := scanDocument_cons.mp h
      exact ⟨⟨part, hpart⟩, others, hothers⟩
    · rintro ⟨⟨part, hpart⟩, others, hothers⟩
      exact ⟨_, scanDocument_cons.mpr ⟨part, others, hpart, hothers, rfl⟩⟩

/-- **Malformed patterns do not disturb a scan.** A scan returns if and only if each pattern and
each joined pattern compiles or is malformed, and no match has a crossed group. It then returns one
after another what each matcher contributes by itself, and that is nothing for a matcher without a
regular expression. A matcher is never rejected because a pattern is malformed. -/
theorem scanDocument_isolates [Engine] (text : Array Char) (ms : List Matcher) :
    ((∃ found, scanDocument text ms = .ok found) ↔
      ∀ m ∈ ms, m.IsJudged ∧ m.IsUncrossed text) ∧
    (∀ found, scanDocument text ms = .ok found →
      ∃ parts, List.Forall₂
        (fun m part => scanDocument text [m] = .ok part ∧ (m.IsIdle → part = [])) ms parts ∧
        found = parts.flatten) ∧
    ∀ m ∈ ms, ((∃ c, m.compile = .ok c) ↔ m.IsJudged) ∧
      ∀ cause, m.compile = .error cause → cause.isMalformed = false := by
  refine ⟨exists_scanDocument_iff, ?_, ?_⟩
  · intro found h
    obtain ⟨parts, hparts, rfl⟩ := scanDocument_eq_ok.mp h
    refine ⟨parts, hparts.imp ?_, rfl⟩
    intro m part hpart
    exact ⟨scanDocument_singleton.mpr hpart, fun hidle => Matcher.eq_nil_of_isIdle hidle hpart⟩
  · intro m _
    exact ⟨Matcher.exists_compile_iff, fun _ h => Matcher.not_isMalformed_of_compile h⟩

/-- A well-formed matcher, with a group for each field that a diagnostic needs. -/
def located : Matcher :=
  .single "(x):(1):(2) (m)" (.ofList [(.file, 1), (.line, 2), (.column, 3), (.message, 4)])

/-- A text that the matcher has a diagnostic for. -/
def locatedText : Array Char :=
  "x:1:2 m".toList.toArray

/-- That diagnostic. -/
def locatedDiagnostic : Diagnostic where
  file := "x"
  message := "m"
  code := .placeholder
  range := ⟨1, 2, 1, 2⟩

theorem scanDocument_isolates_openGroup :
    (Matcher.single "(").IsIdle ∧
      scanDocument locatedText [.single "(", located] = .ok [locatedDiagnostic] ∧
      ∃ parts, List.Forall₂
        (fun m part => scanDocument locatedText [m] = .ok part ∧ (m.IsIdle → part = []))
        [.single "(", located] parts ∧ [locatedDiagnostic] = parts.flatten := by
  have hscan : scanDocument locatedText [.single "(", located] = .ok [locatedDiagnostic] := by
    decide +kernel
  exact ⟨⟨_, rfl, rfl⟩, hscan, (scanDocument_isolates _ _).2.1 _ hscan⟩

/-- A pattern that is rejected for a count, for two alphabets at once or for the width of a
lookbehind does not compile, and loses the diagnostic of the matcher after it. -/
theorem not_returns_beyondGrammar :
    scanDocument locatedText [located] = .ok [locatedDiagnostic] ∧
      ∀ source ∈ ["a{4294967295}", "(?a)(?u)a", "(?<=a{2147483648})b"],
        (¬∃ c, (Matcher.single source).compile = .ok c) ∧
          ¬∃ found, scanDocument locatedText [.single source, located] = .ok found := by
  refine ⟨by decide +kernel, ?_⟩
  have hlost : ∀ source cause, (Matcher.single source).compile = .error cause →
      (¬∃ c, (Matcher.single source).compile = .ok c) ∧
        ¬∃ found, scanDocument locatedText [.single source, located] = .ok found := by
    intro source cause h
    have hnone : ¬∃ c, (Matcher.single source).compile = .ok c := by
      rintro ⟨c, hc⟩
      rw [h] at hc
      cases hc
    refine ⟨hnone, ?_⟩
    rintro ⟨found, hfound⟩
    obtain ⟨part, others, ⟨c, capture?, diagnostic, hc, -⟩, -⟩ := scanDocument_cons.mp hfound
    exact hnone ⟨c, hc⟩
  intro source hsource
  simp only [List.mem_cons, List.not_mem_nil, or_false] at hsource
  rcases hsource with rfl | rfl | rfl
  · exact hlost _ .countTooLarge rfl
  · exact hlost _ .alphabetConflict rfl
  · exact hlost _ .lookbehindTooWide rfl

end ProblemMatcher
