import ProblemMatcher.Proofs.Matcher.Joining
import ProblemMatcher.Proofs.Regex.Seam

/-!
# Reading the joined pattern

The joined pattern is read token by token, and its tokens are those of the patterns with an escaped
line feed after each but the last.

1. `piece_parses`: what a pattern contributes is well formed by itself, with the pattern's groups.
2. `tokens_compositeSource`: the tokens of the joined pattern.
3. `CompilesTo`: what it means that a matcher compiles to a regular expression.
-/

namespace ProblemMatcher

open ProblemMatcher.Regex

namespace Regex

theorem parse_of_compile? {source : String} {flags : Flags} {regex : Regex}
    (h : compile? source flags = .ok (some regex)) :
    ∃ parsed, parse flags source.toList = .ok parsed ∧ regex = ofParsed source parsed := by
  unfold compile? compile at h
  cases hp : parse flags source.toList with
  | error cause =>
    rw [hp] at h
    cases cause with
    | malformed fault => cases h
    | countTooLarge | countTooLong | alphabetConflict | lookbehindTooWide | crossedGroup => cases h
  | ok parsed =>
    rw [hp] at h
    cases h
    exact ⟨parsed, rfl, rfl⟩

theorem compile?_of_parse {source : String} {flags : Flags} {parsed : Parsed}
    (h : parse flags source.toList = .ok parsed) :
    compile? source flags = .ok (some (ofParsed source parsed)) := by
  unfold compile? compile
  rw [h]
  rfl

end Regex

namespace Fragment

/-- What a pattern contributes is well formed by itself: nothing, if the pattern is malformed. -/
theorem piece_parses {f : Fragment} (h : f.IsJudged) :
    ∃ parsed, parse .plain (f.piece false).toList = .ok parsed ∧ parsed.groupCount = f.groups := by
  obtain ⟨regex?, hr⟩ := h
  have hgroups := groups?_of_compile? hr
  unfold piece isUsable groups
  rw [hgroups]
  cases regex? with
  | none => exact ⟨_, rfl, rfl⟩
  | some regex =>
    obtain ⟨parsed, hparsed, rfl⟩ := parse_of_compile? hr
    exact ⟨parsed, hparsed, rfl⟩

/-- The tokens of what a pattern contributes. -/
def tokens (f : Fragment) (looped : Bool) : List Token :=
  Token.ofChars (f.piece looped).toList

theorem not_mem_tokens {f : Fragment} (h : f.IsJudged) : .loneBackslash ∉ f.tokens false := by
  obtain ⟨parsed, hparsed, -⟩ := piece_parses h
  obtain ⟨a, alone, ha, -⟩ := reads_of_parse hparsed
  exact Reader.not_mem_of_read ha

end Fragment

namespace Matcher

variable {m : Matcher}

/-! ## Tokens of the joined pattern -/

/-- The tokens of patterns that each end in an escaped line feed. -/
def seamTokens (fragments : List Fragment) : List Token :=
  fragments.flatMap fun f => f.tokens false ++ [.escape 'n']

theorem ofChars_intercalate {fragments : List Fragment} (h : ∀ f ∈ fragments, f.IsJudged)
    (last : String) :
    Token.ofChars ("\\n".intercalate (fragments.map (·.piece false) ++ [last])).toList =
      seamTokens fragments ++ Token.ofChars last.toList := by
  induction fragments with
  | nil => simp [seamTokens]
  | cons f rest ih =>
    have hrest : rest.map (·.piece false) ++ [last] ≠ [] := by simp
    have hf := Fragment.not_mem_tokens (h f List.mem_cons_self)
    have hseam : ∀ cs, Token.ofChars ("\\n".toList ++ cs) = .escape 'n' :: Token.ofChars cs :=
      fun cs => rfl
    rw [List.map_cons, List.cons_append, String.intercalate_cons_of_ne_nil hrest,
      String.toList_append, String.toList_append, List.append_assoc, Token.ofChars_append hf, hseam,
      ih fun g hg => h g (List.mem_cons_of_mem _ hg)]
    simp [seamTokens, Fragment.tokens]

theorem tokens_compositeSource {initial : List Fragment} {last : Fragment}
    (h : m.fragments = initial ++ [last]) (hjudged : ∀ f ∈ initial, f.IsJudged) :
    Token.ofChars m.compositeSource.toList = seamTokens initial ++ last.tokens last.loop := by
  have hpieces : m.pieces = initial.map (·.piece false) ++ [last.piece last.loop] := by
    simp [pieces, h]
  rw [compositeSource, hpieces, ofChars_intercalate hjudged]
  rfl

/-! ## Matchers that compile -/

/-- A matcher that is usable has a last pattern. -/
theorem exists_last (h : m.fragments.any Fragment.isUsable = true) :
    ∃ initial last, m.fragments = initial ++ [last] := by
  rcases List.eq_nil_or_concat m.fragments with hnil | ⟨initial, last, happ⟩
  · rw [hnil] at h
    cases h
  · exact ⟨initial, last, by rw [happ, List.concat_eq_append]⟩

theorem Joined.isJudged_of_addAll {j j' : Joined} {fragments : List Fragment}
    (h : j.addAll fragments = .ok j') : ∀ f ∈ fragments, f.IsJudged := by
  induction fragments generalizing j with
  | nil => nofun
  | cons f rest ih =>
    obtain ⟨j₁, hf, hrest⟩ := bind_eq_ok.mp h
    obtain ⟨regex?, hregex, -⟩ := bind_eq_ok.mp hf
    intro g hg
    rcases List.mem_cons.mp hg with rfl | hg
    · exact ⟨regex?, hregex⟩
    · exact ih hrest g hg

theorem isJudged_of_compile {c : CompiledMatcher} (h : m.compile = .ok c) :
    ∀ f ∈ m.fragments, f.IsJudged := by
  obtain ⟨j, hj, -⟩ := bind_eq_ok.mp h
  exact Joined.isJudged_of_addAll hj

/-- The matcher compiles, to a regular expression among other things, and this is how the joined
pattern is read. -/
structure CompilesTo (m : Matcher) (c : CompiledMatcher) (regex : Regex) : Prop where
  isJudged : ∀ f ∈ m.fragments, f.IsJudged
  isUsable : m.fragments.any Fragment.isUsable = true
  groupCount : c.groupCount = m.totalGroups
  parses : ∃ parsed, parse { multiline := true } m.compositeSource.toList = .ok parsed ∧
    regex = ofParsed m.compositeSource parsed

/-- What a matcher has been compiled to: its joined pattern, the groups of that, and its fields. -/
theorem eq_of_compile {c : CompiledMatcher} (h : m.compile = .ok c) :
    m.compositeRegex? = .ok c.regex ∧ c.groupCount = m.totalGroups ∧
      m.ResolvesFields c.offsets := by
  obtain ⟨j, hj, hjoins⟩ := exists_joinsTo (isJudged_of_compile h)
  rw [compile_of_joinsTo hj hjoins, map_eq_ok] at h
  obtain ⟨regex?, hcomposite, rfl⟩ := h
  exact ⟨hcomposite, rfl, hjoins.offsets⟩

theorem compilesTo_of_compile {c : CompiledMatcher} {regex : Regex} (h : m.compile = .ok c)
    (hregex : c.regex = some regex) : m.CompilesTo c regex := by
  obtain ⟨hcomposite, hcount, -⟩ := eq_of_compile h
  rw [hregex, compositeRegex?] at hcomposite
  split_ifs at hcomposite with husable
  · exact ⟨isJudged_of_compile h, husable, hcount, parse_of_compile? hcomposite⟩
  · cases hcomposite

/-- The fields of a matcher that compiles are those of its patterns, joined. -/
theorem resolvesFields_of_compile {c : CompiledMatcher} (h : m.compile = .ok c) :
    m.ResolvesFields c.offsets :=
  (eq_of_compile h).2.2

/-- A matcher compiles if its patterns are judged and so is the joined one. -/
theorem compile_of_composite (hjudged : ∀ f ∈ m.fragments, f.IsJudged) {regex? : Option Regex}
    (h : m.compositeRegex? = .ok regex?) :
    ∃ c, m.compile = .ok c ∧ c.groupCount = m.totalGroups ∧ c.regex = regex? := by
  obtain ⟨j, hj, hjoins⟩ := exists_joinsTo hjudged
  rw [compile_of_joinsTo hj hjoins, h]
  exact ⟨_, rfl, rfl, rfl⟩

/-- A matcher with a usable pattern compiles if its joined pattern is well formed. -/
theorem compile_of_parses (hjudged : ∀ f ∈ m.fragments, f.IsJudged)
    (husable : m.fragments.any Fragment.isUsable = true) {parsed : Parsed}
    (h : parse { multiline := true } m.compositeSource.toList = .ok parsed) :
    ∃ c, m.compile = .ok c ∧ c.groupCount = m.totalGroups ∧
      c.regex = some (ofParsed m.compositeSource parsed) := by
  refine compile_of_composite hjudged ?_
  rw [compositeRegex?, if_pos husable, compile?_of_parse h]

end Matcher

end ProblemMatcher
