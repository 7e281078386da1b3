import ProblemMatcher.Proofs.Live.Normalize

/-!
# Injected modes

With `inject`, a live pattern is tried as if its literal had the letters `g` and `m`, whatever other
letters it has and whatever modes its source turns on. Nothing else about it changes, and once it
has both modes it stays as it is.

1. `normalize_of_ofSource`: the pattern becomes that of its source with the two letters added.
2. `normalize_of_isMultiline`: a pattern with both modes stays.
3. `normalize_injects`: what injection adds, and what it leaves alone.
-/

namespace ProblemMatcher.LivePattern

variable {source letters : String} {offsets : FieldTable} {p : LivePattern}

theorem ofSource_eq_some :
    ofSource source letters offsets = .ok (some p) ↔
      Regex.compile source (flagsOfLetters letters.toList) = .ok p.regex ∧
        p.isGlobal = letters.toList.contains 'g' ∧ p.offsets = offsets := by
  rw [← Regex.compile?_eq_some]
  unfold ofSource
  cases Regex.compile? source (flagsOfLetters letters.toList) with
  | error cause => exact ⟨nofun, nofun⟩
  | ok regex? =>
    cases regex? with
    | none => exact ⟨nofun, nofun⟩
    | some regex =>
      constructor
      · intro h
        cases h
        exact ⟨rfl, rfl, rfl⟩
      · rintro ⟨hregex, hglobal, hoffsets⟩
        cases hregex
        rw [← hglobal, ← hoffsets]
        rfl

/-- The letters `g` and `m` behind others turn on multiline mode and no other. -/
theorem flagsOfLetters_gm (letters : String) :
    flagsOfLetters (letters ++ "gm").toList =
      (flagsOfLetters letters.toList).union { multiline := true } := by
  simp [flagsOfLetters, Regex.Flags.union]

/-- A pattern becomes that of its source with the letters `g` and `m` added. -/
theorem normalize_of_ofSource (h : ofSource source letters offsets = .ok (some p)) :
    ∃ q, p.normalize true = .ok q ∧ ofSource source (letters ++ "gm") offsets = .ok (some q) := by
  obtain ⟨hcompile, -, hoffsets⟩ := ofSource_eq_some.mp h
  obtain rfl := Regex.source_of_compile hcompile
  obtain ⟨regex, hregex, hq⟩ := normalize_of_compile hcompile
  refine ⟨_, hq, ofSource_eq_some.mpr ⟨?_, by simp, hoffsets⟩⟩
  rw [flagsOfLetters_gm]
  exact hregex

/-- A pattern that has both modes stays as it is. -/
theorem normalize_of_isMultiline (hglobal : p.isGlobal = true) (hmultiline : p.isMultiline = true)
    (inject : Bool) : p.normalize inject = .ok p := by
  unfold normalize
  rw [if_pos (by simp [hglobal, hmultiline])]

/-- **Injection adds what is missing.** The pattern of a source and its letters can be normalized
whatever modes the source turns on itself. It keeps its source, its number of groups and its
offsets; the modes in force are those it had and multiline mode, and it looks for all matches. It is
then the pattern of the same source with the letters `g` and `m`, and stays as it is if it is
normalized again. Without `inject` a pattern stays as it is from the start. -/
theorem normalize_injects (h : ofSource source letters offsets = .ok (some p)) :
    p.normalize false = .ok p ∧
      ∃ q, p.normalize true = .ok q ∧ q.regex.source = source ∧
        q.regex.groupCount = p.regex.groupCount ∧ q.offsets = p.offsets ∧
        q.regex.flags = p.regex.flags.union { multiline := true } ∧ q.isGlobal = true ∧
        q.normalize true = .ok q ∧ ofSource source (letters ++ "gm") offsets = .ok (some q) := by
  obtain ⟨q, hq, hadded⟩ := normalize_of_ofSource h
  obtain ⟨hcompile, -, hoffsets⟩ := ofSource_eq_some.mp h
  obtain ⟨hcompile', hglobal, hoffsets'⟩ := ofSource_eq_some.mp hadded
  obtain ⟨regex, hregex, -, hflags, hcount, -⟩ := Regex.compile_multiline hcompile
  rw [flagsOfLetters_gm, hregex] at hcompile'
  obtain rfl : regex = q.regex := Except.ok.inj hcompile'
  have hglobal : q.isGlobal = true := by simpa using hglobal
  have hmultiline : q.isMultiline = true := by
    rw [isMultiline, hflags, Regex.Flags.multiline_union, Bool.or_true]
  exact ⟨rfl, q, hq, Regex.source_of_compile hregex, hcount, hoffsets'.trans hoffsets.symm, hflags,
    hglobal, normalize_of_isMultiline hglobal hmultiline true, hadded⟩

/-- A source that turns on verbose mode and the ASCII alphabet, has an anchor outside multiline mode
and one that depends on it, and ends in a comment. -/
def inlineModes : String :=
  "(?xa)(?-m:^) (\\w) $ # ("

theorem normalize_injects_inlineModes :
    ∃ p : LivePattern, ofSource inlineModes "i" = .ok (some p) ∧
      p.regex.flags.letters = "ixa" ∧ p.regex.groupCount = 1 ∧ p.normalize false = .ok p ∧
      ∃ q, p.normalize true = .ok q ∧ q.regex.source = inlineModes ∧
        q.regex.groupCount = p.regex.groupCount ∧ q.offsets = p.offsets ∧
        q.regex.flags = p.regex.flags.union { multiline := true } ∧ q.isGlobal = true ∧
        q.normalize true = .ok q ∧ ofSource inlineModes ("i" ++ "gm") = .ok (some q) := by
  have hsource : ∀ p : LivePattern, ofSource inlineModes "i" = .ok (some p) →
      p.regex.flags.letters = "ixa" ∧ p.regex.groupCount = 1 := by
    intro p hp
    cases hp
    exact ⟨rfl, rfl⟩
  exact ⟨_, rfl, (hsource _ rfl).1, (hsource _ rfl).2, normalize_injects rfl⟩

end ProblemMatcher.LivePattern
