import ProblemMatcher.Live
import ProblemMatcher.Proofs.Regex.Rereading

/-!
# Normalization

Normalization compiles a regular expression once more, under the modes it has and multiline mode.
That never fails, and it does not matter whether a pattern is made multiline at once or by compiling
it again. A pattern that is multiline already stays as it is.

1. `Regex.parse_multiline`: a pattern made multiline, and made multiline again.
2. `LivePattern.normalize_of_compile`: what a pattern becomes.
3. `LivePattern.exists_normalize`: every live pattern can be normalized.
-/

namespace ProblemMatcher

namespace Regex

namespace Flags

theorem union_comm (a b : Flags) : a.union b = b.union a := by
  simp only [union, Bool.or_comm]

theorem union_multiline {f : Flags} (h : f.multiline = true) :
    f.union { multiline := true } = f := by
  cases f
  cases h
  simp [union]

theorem settled_union_multiline {f : Flags} (h : f.settled = f) :
    (f.union { multiline := true }).settled = f.union { multiline := true } := by
  have hunicode : (!f.ascii) = f.unicode := congrArg Flags.unicode h
  simp only [union, settled, hunicode, Bool.or_false]

end Flags

theorem settled_flags_of_parse {given : Flags} {source : List Char} {parsed : Parsed}
    (h : parse given source = .ok parsed) : parsed.flags.settled = parsed.flags := by
  obtain ⟨r, settled, -, -, -, rfl⟩ := parse_eq_ok.mp h
  rfl

/-- A pattern that could be read can be read as a multiline one. Nothing changes if it is then read
under all the modes it has ended up in, or if it was multiline already. -/
theorem parse_multiline {given : Flags} {source : List Char} {parsed : Parsed}
    (h : parse given source = .ok parsed) :
    ∃ parsed', parse (given.union { multiline := true }) source = .ok parsed' ∧
      parse (parsed.flags.union { multiline := true }) source = .ok parsed' ∧
      parsed'.flags = parsed.flags.union { multiline := true } ∧
      parsed'.groupCount = parsed.groupCount ∧ parsed'.least = parsed.least ∧
      (parsed.flags.multiline = true → parsed' = parsed) := by
  have hgiven := union_flags_of_parse h
  have hsettled := settled_flags_of_parse h
  -- adding a mode twice or in another order makes no difference, so both readings are the same
  have hmore : given.union (given.union { multiline := true }) =
      given.union { multiline := true } := by
    rw [← Flags.union_assoc, Flags.union_self]
  have hlater : (given.union { multiline := true }).union parsed.flags =
      parsed.flags.union { multiline := true } := by
    rw [Flags.union_assoc, Flags.union_comm _ parsed.flags, ← Flags.union_assoc, hgiven]
  have hs : (given.union { multiline := true }).Suits parsed.flags := by
    have hs := Flags.Suits.of_union hgiven
    exact ⟨by simpa only [Flags.union, Bool.or_false] using hs.verbose,
      by simpa only [Flags.union, Bool.or_false] using hs.ascii,
      by simpa only [Flags.union, Bool.or_false] using hs.unicode,
      by simpa only [Flags.union, Bool.or_false] using hs.template⟩
  obtain ⟨parsed', hparsed', hflags, hcount, hleast⟩ := parse_more h hmore hs
  rw [hlater, Flags.settled_union_multiline hsettled] at hflags
  refine ⟨parsed', hparsed', ?_, hflags, hcount, hleast, ?_⟩
  · refine parse_again hparsed' ?_ ?_
    · rw [← hlater, ← Flags.union_assoc, Flags.union_self]
    · rw [hflags, Flags.union_self]
  · intro hmultiline
    have hagain := parse_again h hmore (hlater.trans (Flags.union_multiline hmultiline))
    exact Except.ok.inj (hparsed'.symm.trans hagain)

/-- The regular expression is what its source compiles to under some modes. -/
def IsCompiled (r : Regex) : Prop :=
  ∃ flags, compile r.source flags = .ok r

theorem compile_eq_ok {source : String} {flags : Flags} {r : Regex} :
    compile source flags = .ok r ↔
      ∃ parsed, parse flags source.toList = .ok parsed ∧ ofParsed source parsed = r := by
  unfold compile
  cases parse flags source.toList with
  | error cause => exact ⟨nofun, nofun⟩
  | ok parsed =>
    constructor
    · intro h
      exact ⟨parsed, rfl, Except.ok.inj h⟩
    · rintro ⟨parsed', h, rfl⟩
      cases h
      rfl

theorem compile?_eq_some {source : String} {flags : Flags} {r : Regex} :
    compile? source flags = .ok (some r) ↔ compile source flags = .ok r := by
  unfold compile?
  cases compile source flags with
  | error cause => cases cause <;> exact ⟨nofun, nofun⟩
  | ok r' =>
    constructor
    · intro h
      cases h
      rfl
    · intro h
      cases h
      rfl

theorem source_of_compile {source : String} {flags : Flags} {r : Regex}
    (h : compile source flags = .ok r) : r.source = source := by
  obtain ⟨parsed, hparsed, rfl⟩ := compile_eq_ok.mp h
  rfl

theorem isCompiled_of_compile {source : String} {flags : Flags} {r : Regex}
    (h : compile source flags = .ok r) : r.IsCompiled :=
  ⟨flags, source_of_compile h ▸ h⟩

/-- A regular expression made multiline. -/
theorem compile_multiline {source : String} {flags : Flags} {r : Regex}
    (h : compile source flags = .ok r) :
    ∃ r', compile source (flags.union { multiline := true }) = .ok r' ∧
      compile source (r.flags.union { multiline := true }) = .ok r' ∧
      r'.flags = r.flags.union { multiline := true } ∧
      r'.groupCount = r.groupCount ∧ (r.flags.multiline = true → r' = r) := by
  obtain ⟨parsed, hparsed, rfl⟩ := compile_eq_ok.mp h
  obtain ⟨parsed', hmultiline, hagain, hflags, hcount, -, hsame⟩ := parse_multiline hparsed
  refine ⟨ofParsed source parsed', compile_eq_ok.mpr ⟨_, hmultiline, rfl⟩,
    compile_eq_ok.mpr ⟨_, hagain, rfl⟩, hflags, hcount, ?_⟩
  intro hon
  rw [hsame hon]

end Regex

namespace LivePattern

variable {p : LivePattern}

theorem normalize_true (p : LivePattern) :
    p.normalize true =
      if p.isMultiline then .ok { p with isGlobal := true }
      else (Regex.compile p.regex.source (p.regex.flags.union { multiline := true })).map
        fun regex => { p with regex, isGlobal := true } := by
  have hsame : p.isGlobal = true → p = { p with isGlobal := true } := by
    intro hglobal
    rw [← hglobal]
  unfold normalize
  rw [Bool.not_true, Bool.false_or]
  by_cases hmultiline : p.isMultiline = true
  · by_cases hglobal : p.isGlobal = true
    · rw [if_pos (by rw [hglobal, hmultiline]; rfl), if_pos hmultiline, ← hsame hglobal]
    · rw [if_neg (by simp [hglobal]), if_pos hmultiline]
  · rw [if_neg (by simp [hmultiline]), if_neg hmultiline]

/-- A normalized pattern looks for all matches of its source as a multiline one. -/
theorem normalize_of_compile {flags : Regex.Flags}
    (h : Regex.compile p.regex.source flags = .ok p.regex) :
    ∃ regex, Regex.compile p.regex.source (flags.union { multiline := true }) = .ok regex ∧
      p.normalize true = .ok { p with regex, isGlobal := true } := by
  obtain ⟨regex, hregex, hagain, -, -, hsame⟩ := Regex.compile_multiline h
  refine ⟨regex, hregex, ?_⟩
  rw [normalize_true]
  by_cases hmultiline : p.isMultiline = true
  · rw [if_pos hmultiline, hsame hmultiline]
  · rw [if_neg hmultiline, hagain]
    rfl

/-- The pattern of a source and its letters can be compiled again. -/
theorem isCompiled_of_ofSource {source letters : String} {offsets : FieldTable}
    (h : ofSource source letters offsets = .ok (some p)) : p.regex.IsCompiled := by
  unfold ofSource at h
  cases hcompile : Regex.compile? source (flagsOfLetters letters.toList) with
  | error cause =>
    rw [hcompile] at h
    cases h
  | ok regex? =>
    rw [hcompile] at h
    cases regex? with
    | none => cases h
    | some regex =>
      cases h
      exact Regex.isCompiled_of_compile (Regex.compile?_eq_some.mp hcompile)

/-- Every live pattern can be normalized. -/
theorem exists_normalize (h : p.regex.IsCompiled) (inject : Bool) :
    ∃ q, p.normalize inject = .ok q := by
  cases inject with
  | false => exact ⟨p, rfl⟩
  | true =>
    obtain ⟨flags, hflags⟩ := h
    obtain ⟨regex, -, hq⟩ := normalize_of_compile hflags
    exact ⟨_, hq⟩

end LivePattern

end ProblemMatcher
