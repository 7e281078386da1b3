import ProblemMatcher.Declaration.Pattern
import ProblemMatcher.Proofs.Live.Preview
import ProblemMatcher.Proofs.Matcher.Stripped

/-!
# Patterns with one source

A single pattern is looked up by its source, and several matchers may have the same one. Then the
first of them supplies the offsets. Whether a pattern can be tried does not depend on which of them
it is, only the offsets do.

1. `pattern?_of_source`: a pattern is tried with the offsets of the first matcher that has its
   source.
2. `asWritten_eq_iff`: when two matchers with one source are tried alike.
-/

namespace ProblemMatcher

namespace Matcher

variable {m m' : Matcher} {f f' : Fragment}

/-- What a matcher says is to be tried for one of its patterns: the pattern as it is written, with
the offsets of the matcher. -/
def asWritten (m : Matcher) (f : Fragment) : Except Regex.Rejection (Option LivePattern) := do
  LivePattern.ofSource f.source "" (← m.compile).offsets

/-- Patterns with one source are usable and rejected alike, whatever their fields are. -/
theorem compile_alike (hm : m.fragments = [f]) (hm' : m'.fragments = [f'])
    (hloop : f.loop = false) (hloop' : f'.loop = false) (hsource : f.source = f'.source) :
    m.compile.map (fun _ => ()) = m'.compile.map fun _ => () := by
  unfold compile
  rw [hm, hm', Joined.addAll, Joined.addAll, Joined.add, Joined.add, hsource, hloop, hloop']
  cases Regex.compile? (stripAnchors f'.source) with
  | error cause => rfl
  | ok regex? =>
    cases regex? with
    | none => rfl
    | some regex =>
      -- what is joined is the source alone, and the rest only goes into the result
      simp only [bind, Except.bind, pure, Except.pure, Joined.addAll, Joined.addUsable, Joined.source,
        Bool.and_false, if_true]
      split <;> rfl

/-- A pattern that is usable without its anchors can be joined. -/
theorem exists_compile_of_single (hm : m.fragments = [f]) (hloop : f.loop = false)
    {stripped : Regex} (husable : Regex.compile (stripAnchors f.source) = .ok stripped) :
    ∃ c, m.compile = .ok c := by
  obtain ⟨joined, hjoined, -⟩ := Regex.compile_multiline husable
  rw [Regex.Flags.plain_union] at hjoined
  obtain ⟨c, hc, -⟩ := compile_of_single hm hloop husable hjoined
  exact ⟨c, hc⟩

/-- Two matchers supply the same offsets, or are rejected alike. -/
def SameOffsets (m m' : Matcher) : Prop :=
  m.compile.map (·.offsets) = m'.compile.map (·.offsets)

theorem ofSource_of_compile {source : String} {regex : Regex}
    (h : Regex.compile source = .ok regex) (offsets : FieldTable) :
    LivePattern.ofSource source "" offsets = .ok (some { regex, offsets }) := by
  have hcompile : Regex.compile? source (LivePattern.flagsOfLetters "".toList) =
      .ok (some regex) := Regex.compile?_eq_some.mpr h
  rw [LivePattern.ofSource, hcompile]
  rfl

/-- A source that is not well formed is tried with no offsets at all. -/
theorem ofSource_congr {source : String} (h : ¬∃ regex, Regex.compile source = .ok regex)
    (offsets offsets' : FieldTable) :
    LivePattern.ofSource source "" offsets = LivePattern.ofSource source "" offsets' := by
  unfold LivePattern.ofSource
  cases hcompile : Regex.compile? source (LivePattern.flagsOfLetters "".toList) with
  | error cause => rfl
  | ok regex? =>
    cases regex? with
    | none => rfl
    | some regex => exact absurd ⟨regex, Regex.compile?_eq_some.mp hcompile⟩ h

/-- Two matchers with one source are tried alike if and only if they have the same offsets, or there
is nothing to try. -/
theorem asWritten_eq_iff (hm : m.fragments = [f]) (hm' : m'.fragments = [f'])
    (hloop : f.loop = false) (hloop' : f'.loop = false) (hsource : f.source = f'.source) :
    m.asWritten f = m'.asWritten f' ↔
      ((∃ regex, Regex.compile f.source = .ok regex) → SameOffsets m m') := by
  unfold asWritten SameOffsets
  rw [← hsource]
  by_cases hwell : ∃ regex, Regex.compile f.source = .ok regex
  · obtain ⟨regex, hregex⟩ := hwell
    obtain ⟨stripped, hstripped, -, -⟩ := compile_stripAnchors hregex
    obtain ⟨c, hc⟩ := exists_compile_of_single hm hloop hstripped
    obtain ⟨c', hc'⟩ := exists_compile_of_single hm' hloop' (hsource ▸ hstripped)
    rw [hc, hc']
    show LivePattern.ofSource f.source "" c.offsets = LivePattern.ofSource f.source "" c'.offsets ↔ _
    rw [ofSource_of_compile hregex, ofSource_of_compile hregex]
    constructor
    · intro heq _
      exact congrArg Except.ok (congrArg LivePattern.offsets (Option.some.inj (Except.ok.inj heq)))
    · intro heq
      have hoffsets : c.offsets = c'.offsets := Except.ok.inj (heq ⟨regex, hregex⟩)
      rw [hoffsets]
  · refine ⟨fun _ h => absurd h hwell, fun _ => ?_⟩
    have halike := compile_alike hm hm' hloop hloop' hsource
    cases hc : m.compile <;> cases hc' : m'.compile <;> rw [hc, hc'] at halike <;> cases halike
    · rfl
    · exact ofSource_congr hwell _ _

end Matcher

namespace Declaration

variable {d : Declaration} {ds : List Declaration} {ms : List Matcher}

/-- A pattern is tried with the offsets of the first matcher that has its source. -/
theorem pattern?_of_source {m : Matcher} {f : Fragment} (hd : d.source = some f.source)
    (hm : matcherOf? f.source ms = some m) : d.pattern? ds ms = m.asWritten f := by
  have hoffsets : offsetsOf f.source ms = m.compile.map (·.offsets) := by
    unfold offsetsOf
    rw [hm]
  unfold pattern?
  rw [hd]
  show (offsetsOf f.source ms >>= fun offsets => LivePattern.ofSource f.source "" offsets) = _
  rw [hoffsets]
  unfold Matcher.asWritten
  cases m.compile <;> rfl

end Declaration

end ProblemMatcher
