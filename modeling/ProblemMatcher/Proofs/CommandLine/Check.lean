import ProblemMatcher.Proofs.Scan.Contribution
import ProblemMatcher.CommandLine

/-!
# What a check reports

A check is a scan of the part of a sample that is looked at, by the matchers of a file or by those
of them that have been named. What it prints is the diagnostics of these matchers and nothing else,
each on a line, and its exit code tells whether there are any.

1. `Text.exists_dropStyling_concat`: the end of a line is no styling, so something is printed for
   it.
2. `run_check`: a check is a scan, whose rejection is passed on.
3. `check_reports`: a scan takes its matchers one by one, and so does a check, of all matchers and
   of those that have been named.
-/

namespace ProblemMatcher

namespace Text

/-- A styling sequence ends with a letter. -/
theorem isAlpha_of_stylingLength {text : List Char} {n : Nat} (h : stylingLength text = n + 1) :
    ∃ c, text[n]? = some c ∧ c.isAlpha := by
  unfold stylingLength at h
  split at h
  · rename_i rest
    cases hhead : (rest.dropWhile isParameter).head? with
    | none =>
      rw [hhead] at h
      cases h
    | some c =>
      rw [hhead] at h
      dsimp only at h
      split_ifs at h with hc
      obtain rfl : n = (rest.takeWhile isParameter).length + 2 := by omega
      refine ⟨c, ?_, hc⟩
      calc rest[(rest.takeWhile isParameter).length]?
          = (rest.takeWhile isParameter ++ rest.dropWhile isParameter)[
              (rest.takeWhile isParameter).length]? := by rw [List.takeWhile_append_dropWhile]
        _ = (rest.dropWhile isParameter)[0]? := by
          rw [List.getElem?_append_right (Nat.le_refl _), Nat.sub_self]
        _ = some c := by rw [← List.head?_eq_getElem?, hhead]
  · cases h

/-- So no sequence reaches over the end of a line. -/
theorem exists_dropStyling_concat {n : Nat} {line : List Char} (h : n ≤ line.length) :
    ∃ kept, dropStyling n (line ++ ['\n']) = kept ++ ['\n'] := by
  induction line generalizing n with
  | nil =>
    obtain rfl : n = 0 := Nat.le_zero.mp h
    exact ⟨[], rfl⟩
  | cons c rest ih =>
    cases n with
    | succ n => exact ih (Nat.le_of_succ_le_succ h)
    | zero =>
      rw [List.cons_append]
      unfold dropStyling
      cases hn : stylingLength (c :: (rest ++ ['\n'])) with
      | zero =>
        obtain ⟨kept, hkept⟩ := ih (Nat.zero_le _)
        exact ⟨c :: kept, congrArg (c :: ·) hkept⟩
      | succ n =>
        -- the last character of a sequence is a letter, and a line feed is none
        obtain ⟨last, hlast, halpha⟩ := isAlpha_of_stylingLength hn
        refine ih (Nat.lt_succ_iff.mp (Nat.lt_of_not_le fun hge => ?_))
        rw [← List.cons_append, List.getElem?_append_right hge] at hlast
        obtain rfl := List.mem_singleton.mp (List.mem_of_getElem? hlast)
        exact absurd halpha (by decide)

theorem withoutStyling_ne (line : String) : withoutStyling (line ++ "\n") ≠ "" := by
  intro h
  obtain ⟨kept, hkept⟩ := exists_dropStyling_concat (Nat.zero_le line.toList.length)
  have hchars := congrArg String.toList h
  rw [withoutStyling, String.toList_ofList, String.toList_append] at hchars
  exact absurd (hkept.symm.trans hchars) (by simp)

end Text

/-! ## A check as a scan -/

theorem FileTree.hasNul_of_readText {t : FileTree} {p : Path} {text : List Char}
    (h : t.readText p = .ok text) : FileTree.hasNul p = false := by
  by_contra hnul
  rw [Bool.not_eq_false] at hnul
  unfold readText readBytes at h
  rw [if_pos hnul] at h
  cases h

theorem Matcher.exists_readText_of_load {t : FileTree} {p : Path} {ms : List Matcher}
    (h : load t p = .ok ms) : ∃ text, t.readText p = .ok text := by
  unfold load at h
  cases htext : t.readText p with
  | ok text => exact ⟨text, rfl⟩
  | error =>
    rw [htext] at h
    cases h

namespace Command

/-- What is left behind by a check that has found some diagnostics. -/
def checked (codes : Nat → String) (found : List Diagnostic) : CommandOutput where
  exitCode := if found.isEmpty then 0 else 1
  output := printed (diagnosticLines codes found)

variable {t : FileTree} {codes : Nat → String} {config sample : Path} {names : List String}
  {s : Settings} {ms : List Matcher} {text : List Char}

theorem settings_of_load (h : Settings.load t t.currentDirectory = .ok s) : settings t = .ok s := by
  rw [settings, h]
  rfl

theorem sampleText_of_readText (h : t.readText sample = .ok text) :
    sampleText t s sample = .ok (s.bound text) := by
  rw [sampleText, h]

/-- A check scans the part of the sample that is looked at. -/
theorem run_check [Engine] (hs : Settings.load t t.currentDirectory = .ok s)
    (hms : Matcher.load t config = .ok ms) (htext : t.readText sample = .ok text) :
    run t codes (.check config sample names) =
      ((scanDocument (s.bound text).toArray (chosen names ms)).map (checked codes)).mapError
        .rejected := by
  obtain ⟨declared, hdeclared⟩ := Matcher.exists_readText_of_load hms
  have hnul : (Command.check config sample names).paths.any FileTree.hasNul = false := by
    simp [paths, FileTree.hasNul_of_readText hdeclared, FileTree.hasNul_of_readText htext]
  rw [run, if_neg (by simp [hnul])]
  simp only [perform, runCheck, settings_of_load hs, hms, sampleText_of_readText htext,
    Except.mapError, bind, Except.bind]
  cases scanDocument (s.bound text).toArray (chosen names ms) <;> rfl

/-! ## What is reported -/

/-- The output has a line for each of some diagnostics and nothing else. The exit code is 1 if there
is any, and something is printed then; it is 0 if there is none. -/
structure Reports (codes : Nat → String) (found : List Diagnostic) (out : CommandOutput) :
    Prop where
  output : out.output = printed (diagnosticLines codes found)
  errors : out.errors = ""
  anything : found ≠ [] → out.output ≠ "" ∧ out.exitCode = 1
  nothing : found = [] → out.output = "" ∧ out.exitCode = 0

theorem printed_ne {lines : List String} (h : lines ≠ []) : printed lines ≠ "" := by
  obtain ⟨line, rest, rfl⟩ := List.exists_cons_of_ne_nil h
  intro hempty
  rw [printed, List.map_cons, String.join_cons, String.append_eq_empty_iff] at hempty
  exact Text.withoutStyling_ne line hempty.1

theorem reports_checked (codes : Nat → String) (found : List Diagnostic) :
    Reports codes found (checked codes found) where
  output := rfl
  errors := rfl
  anything h := by
    refine ⟨printed_ne ?_, if_neg (by simpa using h)⟩
    simpa [diagnosticLines] using h
  nothing h := by
    subst h
    exact ⟨rfl, rfl⟩

/-- A command ends unless a match of one of some matchers in a text is rejected, and then reports
what each of these contributes by itself, one after another. -/
structure ReportsAll [Engine] (t : FileTree) (c : Command) (text : Array Char) (ms : List Matcher) :
    Prop where
  ends : ∀ codes, (∃ out, run t codes c = .ok out) ↔ ∀ m ∈ ms, m.IsUncrossed text
  reports : ∀ codes out, run t codes c = .ok out →
    Reports codes (ms.flatMap (·.contribution text)) out

theorem reportsAll_check [Engine] (hs : Settings.load t t.currentDirectory = .ok s)
    (hms : Matcher.load t config = .ok ms) (htext : t.readText sample = .ok text)
    (hjudged : ∀ m ∈ chosen names ms, m.IsJudged) :
    ReportsAll t (.check config sample names) (s.bound text).toArray (chosen names ms) where
  ends codes := by
    rw [← exists_scanDocument_iff_of_isJudged hjudged]
    simp only [run_check hs hms htext, mapError_eq_ok, map_eq_ok]
    exact ⟨fun ⟨_, found, h, _⟩ => ⟨found, h⟩, fun ⟨found, h⟩ => ⟨_, found, h, rfl⟩⟩
  reports codes out h := by
    rw [run_check hs hms htext, mapError_eq_ok, map_eq_ok] at h
    obtain ⟨found, hfound, rfl⟩ := h
    rw [← eq_flatMap_of_scanDocument hfound]
    exact reports_checked codes found

/-- **Matchers are independent, and a check reports what they find.** A scan by some matchers and
then others is the scans by the ones and by the others after one another. A scan that returns has
what each of its matchers contributes by itself, in their order, and no matcher contributes more
than one diagnostic. Take a check of the text by these matchers, with settings that can be had,
where each pattern and each joined pattern compiles or is malformed. It ends unless a match of a
matcher has a crossed group, and then reports what all of them contribute, each by itself; and so
does a check with some names, for exactly the matchers with one of these names. -/
theorem check_reports [Engine] (text : Array Char) (ms : List Matcher) :
    (∀ before after, ms = before ++ after →
      scanDocument text ms = do
        let found ← scanDocument text before
        let others ← scanDocument text after
        return found ++ others) ∧
    (∀ found, scanDocument text ms = .ok found → found = ms.flatMap (·.contribution text)) ∧
    (∀ m ∈ ms, (m.contribution text).length ≤ 1) ∧
    ∀ {t : FileTree} {config sample : Path} {names : List String} {s : Settings}
      {content : List Char}, Settings.load t t.currentDirectory = .ok s →
      Matcher.load t config = .ok ms → t.readText sample = .ok content →
      (s.bound content).toArray = text → names ≠ [] → (∀ m ∈ ms, m.IsJudged) →
      ReportsAll t (.check config sample []) text ms ∧
      ReportsAll t (.check config sample names) text
        (ms.filter fun m => names.contains m.name) := by
  refine ⟨?_, fun _ => eq_flatMap_of_scanDocument, fun m _ => m.length_contribution_le text, ?_⟩
  · rintro before after rfl
    exact scanDocument_append text before after
  · rintro t config sample names s content hs hms htext rfl hnames hjudged
    refine ⟨reportsAll_check hs hms htext hjudged, ?_⟩
    have hchosen : chosen names ms = ms.filter fun m => names.contains m.name :=
      if_neg (by simpa using hnames)
    rw [← hchosen]
    refine reportsAll_check hs hms htext fun m hm => hjudged m ?_
    rw [hchosen] at hm
    exact List.mem_of_mem_filter hm

/-- The match of this matcher in a text that begins with `axb` has a crossed group. -/
def crossed : Matcher :=
  .single "(?:(a)x|b)*+" .empty "c"

/-- A matcher with a diagnostic for `1:2 m`. -/
def plain : Matcher :=
  .single "(1)(:)(2) (m)" .empty "n"

/-- A declaration that has a name and a pattern text. -/
theorem ofMembers_named (index : Int) (name source : String) :
    Matcher.ofMembers index [("name", .str name), ("pattern", .str source)] =
      .ok (.single source .empty name) := by
  have hname : Members.get? [("name", .str name), ("pattern", .str source)] "name" =
      some (.str name) := rfl
  have hpattern : Members.get? [("name", .str name), ("pattern", .str source)] "pattern" =
      some (.str source) := rfl
  have hdefaults : Members.get? [("name", .str name), ("pattern", .str source)] "defaults" =
      none := rfl
  have hupper : Matcher.fieldTable (.defaults (.named name)) Matcher.fieldNames [] =
      .ok .empty := by
    simp only [Matcher.fieldTable, Matcher.unknownNames, Members.names, List.map_nil,
      List.filter_nil, List.mergeSort_nil]
    rfl
  have htable : (FieldTable.single.overlay .empty).supplied = .single :=
    FieldTable.ext fun f => by cases f <;> rfl
  simp only [Matcher.ofMembers, Matcher.labelOf, Matcher.nameOf, hname, hpattern, hdefaults,
    Option.getD_none, Matcher.shapeOfValue, hupper, htable, bind, Except.bind]
  rfl

/-- What declares the two matchers. -/
def declarations : String :=
  "[\x7b\"name\":\"c\",\"pattern\":\"(?:(a)x|b)*+\"\x7d," ++
    "\x7b\"name\":\"n\",\"pattern\":\"(1)(:)(2) (m)\"\x7d]"

/-- A file with these declarations, and a sample that both matchers have a match in. -/
def crossing : FileTree where
  entries := [
    (["m"], .file (declarations.toList.map fun c => .ofNat c.toNat)),
    (["s"], .file ("axb 1:2 m".toList.map fun c => .ofNat c.toNat))]

theorem load_crossing : Settings.load crossing crossing.currentDirectory = .ok {} ∧
    Matcher.load crossing ⟨"", ["m"]⟩ = .ok [crossed, plain] ∧
    crossing.readText ⟨"", ["s"]⟩ = .ok "axb 1:2 m".toList := by
  have htext : crossing.readText ⟨"", ["m"]⟩ = .ok declarations.toList := by decide +kernel
  have hparse : Json.parseChars declarations.toList =
      .ok (.arr [.obj [("name", .str "c"), ("pattern", .str "(?:(a)x|b)*+")],
        .obj [("name", .str "n"), ("pattern", .str "(1)(:)(2) (m)")]]) := by cbv
  refine ⟨by decide +kernel, ?_, by decide +kernel⟩
  rw [Matcher.load, htext]
  dsimp only
  rw [Matcher.ofText, hparse]
  dsimp only
  simp only [Matcher.ofDocument, Matcher.declarationsOf, Matcher.ofValuesFrom, Matcher.ofValue,
    ofMembers_named, bind, Except.bind]
  rfl

theorem isJudged_crossing : ∀ m ∈ [crossed, plain], m.IsJudged := by
  have hcrossed : crossed.IsJudged := Matcher.exists_compile_iff.mp ⟨_, rfl⟩
  have hplain : plain.IsJudged := Matcher.exists_compile_iff.mp ⟨_, rfl⟩
  simp [hcrossed, hplain]

/-- A check of the second matcher alone ends, and reports what it finds. -/
theorem check_reports_named :
    ReportsAll crossing (.check ⟨"", ["m"]⟩ ⟨"", ["s"]⟩ ["n"])
        (({} : Settings).bound "axb 1:2 m".toList).toArray
        ([crossed, plain].filter fun m => ["n"].contains m.name) ∧
      run crossing (fun _ => "c") (.check ⟨"", ["m"]⟩ ⟨"", ["s"]⟩ ["n"]) =
        .ok { exitCode := 1, output := "1:1:2: ERROR c m\n" } := by
  obtain ⟨hs, hms, htext⟩ := load_crossing
  refine ⟨((check_reports _ _).2.2.2 hs hms htext rfl (by decide) isJudged_crossing).2, ?_⟩
  rw [run_check hs hms htext]
  decide +kernel

/-- A check of both does not end, with either release of the engine: the rejection of the first is
passed on, although its pattern compiles, and the diagnostic of the second is lost with it. -/
theorem not_ends_crossing :
    Settings.load crossing crossing.currentDirectory = .ok {} ∧
      Matcher.load crossing ⟨"", ["m"]⟩ = .ok [crossed, plain] ∧
      crossing.readText ⟨"", ["s"]⟩ = .ok "axb 1:2 m".toList ∧
      (∀ m ∈ [crossed, plain], m.IsJudged) ∧
      (∀ [Engine], scanDocument "axb 1:2 m".toList.toArray [plain] =
        .ok [{ file := "1", message := "m", code := .placeholder, range := ⟨1, 2, 1, 2⟩ }]) ∧
      ∀ [Engine], run crossing (fun _ => "c") (.check ⟨"", ["m"]⟩ ⟨"", ["s"]⟩ []) =
        .error (.rejected .crossedGroup) := by
  obtain ⟨hs, hms, htext⟩ := load_crossing
  refine ⟨hs, hms, htext, isJudged_crossing, ?_, ?_⟩
  · rintro ⟨_ | _⟩ <;> decide +kernel
  · intro engine
    rw [run_check hs hms htext]
    rcases engine with ⟨_ | _⟩ <;> decide +kernel

end Command

end ProblemMatcher
