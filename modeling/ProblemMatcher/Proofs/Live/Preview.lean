import ProblemMatcher.Proofs.Live.Coverage
import ProblemMatcher.Proofs.Live.Normalize
import ProblemMatcher.Proofs.Matcher.Composite
import ProblemMatcher.Scan

/-!
# Previews and scans

A scan searches once, and the loop over all matches begins with the same search. So a preview begins
with what a scan reports, if both search for the same regular expression. For a compiled matcher
they do: it is multiline, and normalization leaves it as it is. For a single pattern they do if it
has no anchors at its ends, because a compiled matcher has lost them and a preview has not.

1. `Live.Opens`: a preview begins with what a scan reports.
2. `LivePattern.opens_allMatches`: so it is if they share regular expression and offsets.
3. `Matcher.preview_opens`: the preview of a compiled matcher.
4. `Matcher.single_preview_opens`: the preview of a single pattern.
-/

namespace ProblemMatcher

namespace Live

open Regex (Match)

/-- A preview begins with what a scan reports: nothing, its match and diagnostic, or why it was
rejected. -/
structure Opens (y : Yield LiveMatch)
    (scan : Except Regex.Rejection (Option Capture × Option Diagnostic)) : Prop where
  nothing : scan = .ok (none, none) ↔ y.found = [] ∧ y.fault = none
  first : ∀ capture diagnostic, scan = .ok (some capture, diagnostic) →
    y.found.head? = some ⟨capture.found.start, capture.found.stop, diagnostic⟩
  rejected : ∀ why, scan = .error why ↔ y.found = [] ∧ y.fault = some why

section

variable {search : Search} {size : Nat} {isGlobal : Bool}

theorem iterate_of_error {why : Regex.Rejection} (h : search 0 = .error why) :
    iterate search size isGlobal = { fault := some why } := by
  rw [iterate, iterateFrom, h]

theorem iterate_of_none (h : search 0 = .ok none) : iterate search size isGlobal = {} := by
  rw [iterate, iterateFrom, h]

theorem head_iterate {found : Match} (h : search 0 = .ok (some found)) :
    (iterate search size isGlobal).found.head? = some found := by
  rw [iterate, iterateFrom, h]
  rfl

/-- Without looking for all matches, the loop searches once. -/
theorem length_iterate_false : (iterate search size false).found.length ≤ 1 := by
  rw [iterate, iterateFrom]
  cases search 0 with
  | error why => exact Nat.zero_le _
  | ok found? =>
    cases found? with
    | none => exact Nat.zero_le _
    | some found => exact Nat.le_refl _

end

end Live

namespace CompiledMatcher

variable {c : CompiledMatcher} {regex : Regex} {text : Array Char}

theorem scan_of_regex [Engine] (h : c.regex = some regex) :
    c.scan text = (regex.search text).map fun found? =>
      (found?.map fun found => ⟨found, regex.groupCount, text⟩,
        found?.bind fun found =>
          Capture.diagnostic? ⟨found, regex.groupCount, text⟩ c.offsets) := by
  unfold scan firstMatch?
  rw [h]
  dsimp only
  cases regex.search text with
  | error why => rfl
  | ok found? => cases found? <;> rfl

end CompiledMatcher

namespace LivePattern

open Regex (Match)

theorem head_allMatches [Engine] {p : LivePattern} {text : Array Char} {found : Match}
    (h : p.regex.search text = .ok (some found)) :
    (p.allMatches text).found.head? = some (p.itemOf text found) := by
  have hhead : (Live.iterate (fun pos => p.regex.search text pos) text.size
      p.isGlobal).found.head? = some found := Live.head_iterate h
  rw [found_allMatches, List.head?_map, hhead]
  rfl

/-- A pattern that does not look for all matches has one at most. -/
theorem length_allMatches [Engine] {p : LivePattern} (h : p.isGlobal = false) (text : Array Char) :
    (p.allMatches text).found.length ≤ 1 := by
  rw [found_allMatches, List.length_map, h]
  exact Live.length_iterate_false

/-- A preview searches first where a scan searches. -/
theorem opens_allMatches [Engine] {p : LivePattern} {c : CompiledMatcher}
    (hregex : c.regex = some p.regex) (hoffsets : c.offsets = p.offsets) (text : Array Char) :
    Live.Opens (p.allMatches text) (c.scan text) := by
  rw [CompiledMatcher.scan_of_regex hregex, hoffsets]
  cases hsearch : p.regex.search text with
  -- the three outcomes of the first search are the three fields of `Opens`
  | error why =>
    have hall : p.allMatches text = { fault := some why } := by
      rw [allMatches, Live.iterate_of_error hsearch]
      rfl
    rw [hall]
    refine ⟨⟨nofun, nofun⟩, nofun, fun cause => ⟨?_, ?_⟩⟩
    · intro h
      cases h
      exact ⟨rfl, rfl⟩
    · rintro ⟨-, hfault⟩
      cases hfault
      rfl
  | ok found? =>
    cases found? with
    | none =>
      have hall : p.allMatches text = {} := by
        rw [allMatches, Live.iterate_of_none hsearch]
        rfl
      rw [hall]
      exact ⟨⟨fun _ => ⟨rfl, rfl⟩, fun _ => rfl⟩, nofun, fun cause => ⟨nofun, nofun⟩⟩
    | some found =>
      have hhead := head_allMatches hsearch
      have hne : (p.allMatches text).found ≠ [] := by
        intro hnil
        rw [hnil] at hhead
        cases hhead
      refine ⟨⟨nofun, fun h => absurd h.1 hne⟩, ?_, fun cause => ⟨nofun, fun h => absurd h.1 hne⟩⟩
      intro capture diagnostic h
      cases h
      exact hhead

end LivePattern

/-! ## Compiled matchers -/

namespace Matcher

open Regex

variable {m : Matcher} {c : CompiledMatcher}

/-- Patterns are joined under multiline mode. -/
theorem isMultiline_of_compile {regex : Regex} (h : m.compile = .ok c)
    (hregex : c.regex = some regex) : regex.flags.multiline = true := by
  obtain ⟨parsed, hparsed, rfl⟩ := (compilesTo_of_compile h hregex).parses
  exact (congrArg Regex.Flags.multiline (Regex.union_flags_of_parse hparsed)).symm

/-- **A preview of a compiled matcher begins with what a scan reports**, with or without the modes
that normalization adds. Without them it is all that the preview shows. -/
theorem preview_opens [Engine] {regex : Regex} (h : m.compile = .ok c)
    (hregex : c.regex = some regex) (text : Array Char) (inject : Bool) :
    ∃ y, LivePattern.iterMatches { regex, offsets := c.offsets } text inject = .ok y ∧
      Live.Opens y (c.scan text) ∧ (inject = false → y.found.length ≤ 1) := by
  have hnormalize : LivePattern.normalize { regex, offsets := c.offsets } inject =
      .ok { regex, isGlobal := inject, offsets := c.offsets } := by
    cases inject with
    | false => rfl
    | true =>
      rw [LivePattern.normalize_true]
      exact if_pos (isMultiline_of_compile h hregex)
  refine ⟨LivePattern.allMatches { regex, isGlobal := inject, offsets := c.offsets } text, ?_,
    LivePattern.opens_allMatches hregex rfl text, ?_⟩
  · rw [LivePattern.iterMatches, hnormalize]
    rfl
  · intro hinject
    exact LivePattern.length_allMatches hinject text

/-- A matcher over two lines. -/
def twoLines : Matcher where
  fragments := [{ source := "^a$" }, { source := "(b)" }]

theorem preview_opens_twoLines :
    ∃ c regex, twoLines.compile = .ok c ∧ c.regex = some regex ∧
      ∃ y, LivePattern.iterMatches { regex, offsets := c.offsets } #['a', '\n', 'b'] false = .ok y ∧
        Live.Opens y (c.scan #['a', '\n', 'b']) ∧ (false = false → y.found.length ≤ 1) :=
  ⟨_, _, rfl, rfl, preview_opens (m := twoLines) rfl rfl _ _⟩

/-! ## Single patterns -/

/-- A single pattern that is well formed without its anchors compiles to the multiline regular
expression without them. -/
theorem compile_of_single {f : Fragment} (hm : m.fragments = [f]) (hloop : f.loop = false)
    {regex regex' : Regex} (h : Regex.compile (stripAnchors f.source) = .ok regex)
    (h' : Regex.compile (stripAnchors f.source) { multiline := true } = .ok regex') :
    ∃ c, m.compile = .ok c ∧ c.regex = some regex' := by
  have hadd : Joined.addAll { offsets := m.defaults } m.fragments = .ok
      (Joined.addUsable { offsets := m.defaults } f (stripAnchors f.source) regex.groupCount
        false) := by
    rw [hm, Joined.addAll, Joined.add, Regex.compile?_eq_some.mpr h, hloop]
    rfl
  refine ⟨_, bind_eq_ok.mpr ⟨_, hadd, bind_eq_ok.mpr ⟨some regex', ?_, rfl⟩⟩, rfl⟩
  exact Regex.compile?_eq_some.mpr h'

/-- **A scan for a single pattern shows what a preview of the pattern without its anchors begins
with.** -/
theorem single_preview_opens [Engine] {f : Fragment} (hm : m.fragments = [f])
    (hloop : f.loop = false) {regex : Regex}
    (h : Regex.compile (stripAnchors f.source) = .ok regex) :
    ∃ c p, m.compile = .ok c ∧
      LivePattern.ofSource (stripAnchors f.source) "" c.offsets = .ok (some p) ∧
      ∀ text, ∃ y, p.iterMatches text true = .ok y ∧ Live.Opens y (c.scan text) := by
  obtain ⟨regex', h', -⟩ := Regex.compile_multiline h
  rw [Regex.Flags.plain_union] at h'
  obtain ⟨c, hc, hregex⟩ := compile_of_single hm hloop h h'
  have hp : LivePattern.ofSource (stripAnchors f.source) "" c.offsets =
      .ok (some { regex, offsets := c.offsets }) := by
    have hcompile? := Regex.compile?_eq_some.mpr h
    rw [LivePattern.ofSource, show LivePattern.flagsOfLetters "".toList = .plain from rfl,
      hcompile?]
    rfl
  have hnormalize : LivePattern.normalize { regex, offsets := c.offsets } true =
      .ok { regex := regex', isGlobal := true, offsets := c.offsets } := by
    have hsource : regex.source = stripAnchors f.source := Regex.source_of_compile h
    rw [← hsource] at h h'
    obtain ⟨regex'', h'', hq⟩ :=
      LivePattern.normalize_of_compile (p := { regex, offsets := c.offsets }) h
    rw [Regex.Flags.plain_union] at h''
    obtain rfl := Except.ok.inj (h'.symm.trans h'')
    exact hq
  refine ⟨c, _, hc, hp, fun text => ⟨_, ?_, LivePattern.opens_allMatches
    (p := { regex := regex', isGlobal := true, offsets := c.offsets }) hregex rfl text⟩⟩
  rw [LivePattern.iterMatches, hnormalize]
  rfl

/-- For each text, a preview of a pattern under the offsets of the matcher begins with what a scan
reports. -/
def IsPreviewedBy [Engine] (m : Matcher) (source : String) : Prop :=
  ∃ c p, m.compile = .ok c ∧ LivePattern.ofSource source "" c.offsets = .ok (some p) ∧
    ∀ text, ∃ y, p.iterMatches text true = .ok y ∧ Live.Opens y (c.scan text)

/-- **A preview of a single pattern without anchors at its ends begins with what a scan
reports.** -/
theorem isPreviewedBy_of_unanchored [Engine] {f : Fragment} (hm : m.fragments = [f])
    (hloop : f.loop = false) {regex : Regex} (h : Regex.compile f.source = .ok regex)
    (hanchors : stripAnchors f.source = f.source) : m.IsPreviewedBy f.source := by
  have hstripped : Regex.compile (stripAnchors f.source) = .ok regex := hanchors.symm ▸ h
  have hpreview := single_preview_opens hm hloop hstripped
  rw [hanchors] at hpreview
  exact hpreview

theorem isPreviewedBy_inner :
    (∃ regex, Regex.compile "a^b" = .ok regex) ∧ stripAnchors "a^b" = "a^b" ∧
      (single "a^b").IsPreviewedBy "a^b" :=
  ⟨⟨_, rfl⟩, rfl, isPreviewedBy_of_unanchored (m := single "a^b") rfl rfl rfl rfl⟩

/-- An anchor at either end makes the preview differ: the scan finds `a` inside a line. -/
theorem not_isPreviewedBy_anchored :
    ¬(single "^a").IsPreviewedBy "^a" ∧ ¬(single "a$").IsPreviewedBy "a$" := by
  constructor
  · rintro ⟨c, p, hc, hp, h⟩
    cases hc
    cases hp
    obtain ⟨y, hy, hopens⟩ := h #['b', 'a']
    cases hy
    exact absurd (hopens.nothing.mpr ⟨rfl, rfl⟩) nofun
  · rintro ⟨c, p, hc, hp, h⟩
    cases hc
    cases hp
    obtain ⟨y, hy, hopens⟩ := h #['a', 'b']
    cases hy
    exact absurd (hopens.nothing.mpr ⟨rfl, rfl⟩) nofun

end Matcher

end ProblemMatcher
