import ProblemMatcher.Proofs.CommandLine.Check
import ProblemMatcher.Proofs.File.Contents

/-!
# How a check ends

A check that cannot have its matchers or its sample says so on a line of its own and ends with 2.
There is no such line for a file that is not encoded in UTF-8, nor for a document in JSON that
breaks a limit of the reader: these break the check off.

1. `Text.exists_withoutStyling_error`: what a report looks like once the styling is out.
2. `load_stops`, `sampleText_stops`: a file that does not give what the check needs gives a report,
   or it breaks the check off.
3. `exists_run_check_iff`: when a check ends. `check_ends`: how it ends. `not_ends_unreadable` has
   files that break it off.
-/

namespace ProblemMatcher

namespace Text

theorem dropStyling_append {plain rest : List Char} (h : '\x1b' ∉ plain) :
    dropStyling 0 (plain ++ rest) = plain ++ dropStyling 0 rest := by
  induction plain with
  | nil => rfl
  | cons c plain ih =>
    rw [List.mem_cons, not_or] at h
    have hlength : stylingLength (c :: (plain ++ rest)) = 0 := by
      unfold stylingLength
      split
      · rename_i hc
        exact absurd (List.cons.inj hc).1.symm h.1
      · rfl
    rw [List.cons_append, dropStyling, hlength]
    exact congrArg (c :: ·) (ih h.2)

/-- A report keeps the word in front and the end of its line. -/
theorem exists_withoutStyling_error (message : String) :
    ∃ shown, withoutStyling ("error: " ++ message ++ "\n") = "error: " ++ shown ++ "\n" := by
  obtain ⟨kept, hkept⟩ := exists_dropStyling_concat (Nat.zero_le message.toList.length)
  refine ⟨String.ofList kept, String.toList_inj.mp ?_⟩
  simp only [withoutStyling, String.toList_ofList, String.toList_append, List.append_assoc]
  rw [dropStyling_append (by decide)]
  exact congrArg ("error: ".toList ++ ·) hkept

end Text

/-- Reading the document does not stop at a limit: for digits, or for how deep values nest. -/
def Json.IsWithinLimits (text : List Char) : Prop :=
  ∀ fault, Json.parseChars text = .error fault →
    ∃ what line column offset, fault = .malformed what line column offset

/-- What the file holds, if there is a file, is text, and no document that breaks a limit. -/
structure FileTree.IsReportable (t : FileTree) (p : Path) : Prop where
  isText : t.IsText p
  isWithinLimits : ∀ text, t.readText p = .ok text → Json.IsWithinLimits text

section

variable {t : FileTree} {p : Path} {text : List Char} {ms : List Matcher}

theorem FileTree.isReportable_iff (h : t.readText p = .ok text) :
    t.IsReportable p ↔ Json.IsWithinLimits text := by
  refine ⟨fun hreportable => hreportable.isWithinLimits text h, fun hlimits => ⟨?_, ?_⟩⟩
  · exact isText_of_readText h
  · intro other hother
    rw [h] at hother
    cases hother
    exact hlimits

theorem Matcher.load_eq_ok : load t p = .ok ms ↔
    ∃ text doc, t.readText p = .ok text ∧ Json.parseChars text = .ok doc ∧
      ofDocument doc = .ok ms := by
  unfold load ofText
  cases t.readText p with
  | error why => simp
  | ok text => cases hdoc : Json.parseChars text <;> simp [hdoc, mapError_eq_ok]

theorem Matcher.isReportable_of_load (h : load t p = .ok ms) : t.IsReportable p := by
  obtain ⟨text, doc, htext, hdoc, -⟩ := load_eq_ok.mp h
  rw [FileTree.isReportable_iff htext, Json.IsWithinLimits, hdoc]
  exact nofun

end

namespace Command

variable {t : FileTree} {codes : Nat → String} {config sample : Path} {names : List String}
  {s : Settings} {out : CommandOutput}

/-- A check cannot have its matchers, or its sample. -/
inductive IsRefused (t : FileTree) (config sample : Path) : Prop
  | noDeclarations : (∀ text, t.readText config ≠ .ok text) → IsRefused t config sample
  | noDocument {text : List Char} : t.readText config = .ok text →
      (∀ doc, Json.parseChars text ≠ .ok doc) → IsRefused t config sample
  | noMatchers {text : List Char} {doc : Json.Value} : t.readText config = .ok text →
      Json.parseChars text = .ok doc → (∀ ms, Matcher.ofDocument doc ≠ .ok ms) →
      IsRefused t config sample
  | noSample : (∀ text, t.readText sample ≠ .ok text) → IsRefused t config sample

/-- Nothing but the line of an error. -/
structure IsReport (out : CommandOutput) : Prop where
  exitCode : out.exitCode = 2
  output : out.output = ""
  errors : ∃ shown, out.errors = "error: " ++ shown ++ "\n"

/-! ## The two files -/

theorem isRefused_of_not_load (h : ∀ ms, Matcher.load t config ≠ .ok ms) :
    IsRefused t config sample := by
  by_cases htext : ∃ text, t.readText config = .ok text
  swap
  · exact .noDeclarations fun text h => htext ⟨text, h⟩
  obtain ⟨text, htext⟩ := htext
  by_cases hdoc : ∃ doc, Json.parseChars text = .ok doc
  swap
  · exact .noDocument htext fun doc h => hdoc ⟨doc, h⟩
  obtain ⟨doc, hdoc⟩ := hdoc
  exact .noMatchers htext hdoc fun ms hms =>
    h ms (Matcher.load_eq_ok.mpr ⟨text, doc, htext, hdoc, hms⟩)

theorem not_isRefused_iff : ¬ IsRefused t config sample ↔
    (∃ ms, Matcher.load t config = .ok ms) ∧ ∃ text, t.readText sample = .ok text := by
  constructor
  · intro h
    refine ⟨?_, ?_⟩
    · by_contra hms
      exact h (isRefused_of_not_load fun ms hload => hms ⟨ms, hload⟩)
    · by_contra htext
      exact h (.noSample fun text hread => htext ⟨text, hread⟩)
  · rintro ⟨⟨ms, hms⟩, content, hsample⟩ hrefused
    obtain ⟨text, doc, htext, hdoc, hms⟩ := Matcher.load_eq_ok.mp hms
    cases hrefused with
    | noDeclarations h => exact h text htext
    | noDocument htext' h =>
      rw [htext] at htext'
      cases htext'
      exact h doc hdoc
    | noMatchers htext' hdoc' h =>
      rw [htext] at htext'
      cases htext'
      rw [hdoc] at hdoc'
      cases hdoc'
      exact h ms hms
    | noSample h => exact h content hsample

theorem ofText_stops {text : List Char} {why : LoadFault}
    (h : Matcher.ofText config text = .error why) :
    (∃ message, stopOf why = .report message) ↔ Json.IsWithinLimits text := by
  unfold Matcher.ofText at h
  unfold Json.IsWithinLimits
  cases hdoc : Json.parseChars text with
  | ok doc =>
    rw [hdoc] at h
    dsimp only at h
    cases hms : Matcher.ofDocument doc with
    | ok ms =>
      rw [hms] at h
      cases h
    | error why =>
      rw [hms] at h
      cases h
      exact iff_of_true ⟨_, rfl⟩ nofun
  | error fault =>
    rw [hdoc] at h
    cases h
    cases fault with
    | malformed what line column offset =>
      refine iff_of_true ⟨_, rfl⟩ ?_
      rintro _ ⟨⟩
      exact ⟨what, line, column, offset, rfl⟩
    | integerTooLong | tooDeep =>
      refine iff_of_false nofun fun hlimits => ?_
      obtain ⟨what, line, column, offset, hfault⟩ := hlimits _ rfl
      cases hfault

/-- Without matchers there is a report, or the check breaks off. -/
theorem load_stops {why : LoadFault} (hnul : FileTree.hasNul config = false)
    (h : Matcher.load t config = .error why) :
    (∃ message, stopOf why = .report message) ↔ t.IsReportable config := by
  unfold Matcher.load at h
  cases htext : t.readText config with
  | ok text =>
    rw [htext] at h
    rw [FileTree.isReportable_iff htext]
    exact ofText_stops h
  | error fault =>
    rw [htext] at h
    cases h
    rcases FileTree.exists_of_readText hnul htext with ⟨hfile, fault, rfl⟩ | ⟨hbytes, fault, rfl⟩
    · refine iff_of_true ⟨_, rfl⟩ ⟨fun bytes hbytes => absurd hbytes (hfile bytes), ?_⟩
      simp [htext]
    · exact iff_of_false nofun fun hreportable => hbytes hreportable.isText

/-- So it is without a sample. -/
theorem sampleText_stops {why : ReadFault} (hnul : FileTree.hasNul sample = false)
    (h : t.readText sample = .error why) :
    ∃ stop, sampleText t s sample = .error stop ∧
      ((∃ message, stop = .report message) ↔ t.IsText sample) := by
  unfold sampleText
  rw [h]
  rcases FileTree.exists_of_readText hnul h with ⟨hfile, fault, rfl⟩ | ⟨hbytes, fault, rfl⟩
  · exact ⟨_, rfl, iff_of_true ⟨_, rfl⟩ fun bytes hbytes => absurd hbytes (hfile bytes)⟩
  · exact ⟨_, rfl, iff_of_false nofun hbytes⟩

/-! ## The check -/

theorem isReport_error (message : String) :
    IsReport { exitCode := 2, errors := printed [s!"error: {message}"] } where
  exitCode := rfl
  output := rfl
  errors := by
    obtain ⟨shown, hshown⟩ := Text.exists_withoutStyling_error message
    refine ⟨shown, ?_⟩
    rw [printed, List.map_singleton, String.join_cons, ← hshown]
    exact String.append_empty

theorem runCheck_of_load [Engine] {why : LoadFault}
    (hs : Settings.load t t.currentDirectory = .ok s)
    (h : Matcher.load t config = .error why) :
    runCheck t codes config sample names = .error (stopOf why) := by
  simp only [runCheck, settings_of_load hs, h, Except.mapError, bind, Except.bind]

theorem runCheck_of_sampleText [Engine] {stop : Stop}
    (hs : Settings.load t t.currentDirectory = .ok s)
    (hms : Matcher.load t config = .ok ms) (h : sampleText t s sample = .error stop) :
    runCheck t codes config sample names = .error stop := by
  simp only [runCheck, settings_of_load hs, hms, h, Except.mapError, bind, Except.bind]

/-- Only a report ends a check that stops. -/
theorem run_check_of_stop [Engine] {stop : Stop} (hconfig : FileTree.hasNul config = false)
    (hsample : FileTree.hasNul sample = false)
    (h : runCheck t codes config sample names = .error stop) :
    ((∃ out, run t codes (.check config sample names) = .ok out) ↔
        ∃ message, stop = .report message) ∧
      ∀ out, run t codes (.check config sample names) = .ok out → IsReport out := by
  rw [run, if_neg (by simp [paths, hconfig, hsample])]
  simp only [perform, h]
  cases stop with
  | report message =>
    refine ⟨iff_of_true ⟨_, rfl⟩ ⟨message, rfl⟩, ?_⟩
    rintro _ ⟨⟩
    exact isReport_error message
  | fault why =>
    refine ⟨iff_of_false ?_ ?_, ?_⟩
    · rintro ⟨_, ⟨⟩⟩
    · rintro ⟨_, ⟨⟩⟩
    · rintro _ ⟨⟩

theorem exists_run_check_iff [Engine] (hs : Settings.load t t.currentDirectory = .ok s)
    (hconfig : FileTree.hasNul config = false) (hsample : FileTree.hasNul sample = false) :
    (∃ out, run t codes (.check config sample names) = .ok out) ↔
      t.IsReportable config ∧ ∀ ms, Matcher.load t config = .ok ms →
        t.IsText sample ∧ ∀ text, t.readText sample = .ok text →
          ∀ m ∈ chosen names ms, m.IsJudged ∧ m.IsUncrossed (s.bound text).toArray := by
  -- The first of the two files that gives nothing decides; with both the check is a scan.
  cases hms : Matcher.load t config with
  | error why =>
    rw [(run_check_of_stop hconfig hsample (runCheck_of_load hs hms)).1, load_stops hconfig hms]
    simp
  | ok ms =>
    simp only [Matcher.isReportable_of_load hms, Except.ok.injEq, forall_eq', true_and]
    cases htext : t.readText sample with
    | error why =>
      obtain ⟨stop, hstop, hiff⟩ := sampleText_stops (s := s) hsample htext
      rw [(run_check_of_stop hconfig hsample (runCheck_of_sampleText hs hms hstop)).1, hiff]
      simp
    | ok text =>
      simp only [FileTree.isText_of_readText htext, Except.ok.injEq, forall_eq', true_and]
      rw [← exists_scanDocument_iff]
      simp only [run_check hs hms htext, mapError_eq_ok, map_eq_ok]
      exact ⟨fun ⟨_, found, h, _⟩ => ⟨found, h⟩, fun ⟨found, h⟩ => ⟨_, found, h, rfl⟩⟩

theorem isReport_of_isRefused [Engine] (hs : Settings.load t t.currentDirectory = .ok s)
    (hconfig : FileTree.hasNul config = false) (hsample : FileTree.hasNul sample = false)
    (hrefused : IsRefused t config sample)
    (h : run t codes (.check config sample names) = .ok out) : IsReport out := by
  cases hms : Matcher.load t config with
  | error why => exact (run_check_of_stop hconfig hsample (runCheck_of_load hs hms)).2 out h
  | ok ms =>
    cases htext : t.readText sample with
    | error why =>
      obtain ⟨stop, hstop, -⟩ := sampleText_stops (s := s) hsample htext
      exact (run_check_of_stop hconfig hsample (runCheck_of_sampleText hs hms hstop)).2 out h
    | ok text => exact absurd hrefused (not_isRefused_iff.mpr ⟨⟨ms, hms⟩, text, htext⟩)

theorem exists_checked_of_not_isRefused [Engine] (hs : Settings.load t t.currentDirectory = .ok s)
    (hrefused : ¬ IsRefused t config sample)
    (h : run t codes (.check config sample names) = .ok out) :
    ∃ found, out = checked codes found := by
  obtain ⟨⟨ms, hms⟩, text, htext⟩ := not_isRefused_iff.mp hrefused
  rw [run_check hs hms htext, mapError_eq_ok, map_eq_ok] at h
  obtain ⟨found, -, rfl⟩ := h
  exact ⟨found, rfl⟩

/-- **How a check ends.** Take two paths that can be paths, and settings that can be had. A check
ends exactly when what the one file holds is text, and no document in JSON that breaks a limit, and,
if it declares matchers, what the other one holds is text and no match of a matcher that is run is
rejected. It ends with 0, 1 or 2: with 2 and the line of an error if it cannot have its matchers or
its sample, and without an error if it has both. -/
theorem check_ends [Engine] (hs : Settings.load t t.currentDirectory = .ok s)
    (hconfig : FileTree.hasNul config = false) (hsample : FileTree.hasNul sample = false)
    (codes : Nat → String) (names : List String) :
    ((∃ out, run t codes (.check config sample names) = .ok out) ↔
      t.IsReportable config ∧ ∀ ms, Matcher.load t config = .ok ms →
        t.IsText sample ∧ ∀ text, t.readText sample = .ok text →
          ∀ m ∈ chosen names ms, m.IsJudged ∧ m.IsUncrossed (s.bound text).toArray) ∧
    ∀ out, run t codes (.check config sample names) = .ok out →
      (out.exitCode = 0 ∨ out.exitCode = 1 ∨ out.exitCode = 2) ∧
      (IsRefused t config sample → IsReport out) ∧
      (¬ IsRefused t config sample → out.errors = "" ∧ out.exitCode ≠ 2) := by
  refine ⟨exists_run_check_iff hs hconfig hsample, fun out h => ?_⟩
  by_cases hrefused : IsRefused t config sample
  · have hreport := isReport_of_isRefused hs hconfig hsample hrefused h
    exact ⟨Or.inr (Or.inr hreport.exitCode), fun _ => hreport, fun hnot => absurd hrefused hnot⟩
  · obtain ⟨found, rfl⟩ := exists_checked_of_not_isRefused hs hrefused h
    have hcode : (checked codes found).exitCode = 0 ∨ (checked codes found).exitCode = 1 := by
      unfold checked
      dsimp only
      split_ifs
      · exact Or.inl rfl
      · exact Or.inr rfl
    refine ⟨hcode.imp_right Or.inl, fun hyes => absurd hyes hrefused, fun _ => ⟨rfl, ?_⟩⟩
    omega

/-- The check of the second matcher of the file and, with a file that holds no JSON in its place, a
check that has nothing to report but that. -/
theorem check_ends_crossing :
    (∃ out, run crossing (fun _ => "c") (.check ⟨"", ["m"]⟩ ⟨"", ["s"]⟩ ["n"]) = .ok out ∧
        out.errors = "" ∧ out.exitCode ≠ 2) ∧
      ∃ out, run crossing (fun _ => "c") (.check ⟨"", ["s"]⟩ ⟨"", ["s"]⟩ []) = .ok out ∧
        IsReport out := by
  obtain ⟨hs, hms, htext⟩ := load_crossing
  have hnul : FileTree.hasNul ⟨"", ["m"]⟩ = false := by decide +kernel
  have hnul' : FileTree.hasNul ⟨"", ["s"]⟩ = false := by decide +kernel
  constructor
  · have hrun : run crossing (fun _ => "c") (.check ⟨"", ["m"]⟩ ⟨"", ["s"]⟩ ["n"]) =
        .ok { exitCode := 1, output := "1:1:2: ERROR c m\n" } := by
      rw [run_check hs hms htext]
      decide +kernel
    exact ⟨_, hrun, ((check_ends hs hnul hnul' _ _).2 _ hrun).2.2
      (not_isRefused_iff.mpr ⟨⟨_, hms⟩, _, htext⟩)⟩
  · have hdoc : Json.parseChars "axb 1:2 m".toList =
        .error (.malformed .expectingValue 1 1 0) := by cbv
    obtain ⟨hiff, hall⟩ := check_ends hs hnul' hnul' (fun _ => "c") []
    have hload : ∀ ms, Matcher.load crossing ⟨"", ["s"]⟩ ≠ .ok ms := by
      intro ms h
      obtain ⟨text, doc, htext', hdoc', -⟩ := Matcher.load_eq_ok.mp h
      rw [htext] at htext'
      cases htext'
      rw [hdoc] at hdoc'
      cases hdoc'
    have hlimits : Json.IsWithinLimits "axb 1:2 m".toList := by
      intro fault hfault
      rw [hdoc] at hfault
      cases hfault
      exact ⟨_, _, _, _, rfl⟩
    obtain ⟨out, hout⟩ := hiff.mpr
      ⟨(FileTree.isReportable_iff htext).mpr hlimits, fun ms h => absurd h (hload ms)⟩
    refine ⟨out, hout, (hall out hout).2.1 (.noDocument htext fun doc h => ?_)⟩
    rw [hdoc] at h
    cases h

/-- Two files in the working directory. -/
def holdingBoth (config sample : List UInt8) : FileTree where
  entries := [(["m"], .file config), (["s"], .file sample)]

/-- A byte that is in no text, in either file, and arrays in one another, one more than are read:
neither is reported, although each of the files is there. -/
theorem not_ends_unreadable :
    (∀ files ∈ [([0xFF], [0x61]), ([0x5B, 0x5D], [0xFF]), (List.replicate 991 0x5B, [0x61])],
      Settings.load (holdingBoth files.1 files.2)
        (holdingBoth files.1 files.2).currentDirectory = .ok {}) ∧
    run (holdingBoth [0xFF] [0x61]) (fun _ => "c") (.check ⟨"", ["m"]⟩ ⟨"", ["s"]⟩ []) =
      .error (.load (.unreadable (.notUtf8 ⟨.badStart, 0, 1, 0xFF⟩))) ∧
    run (holdingBoth [0x5B, 0x5D] [0xFF]) (fun _ => "c") (.check ⟨"", ["m"]⟩ ⟨"", ["s"]⟩ []) =
      .error (.unreadable (.notUtf8 ⟨.badStart, 0, 1, 0xFF⟩)) ∧
    run (holdingBoth (List.replicate 991 0x5B) [0x61]) (fun _ => "c")
        (.check ⟨"", ["m"]⟩ ⟨"", ["s"]⟩ []) =
      .error (.load (.document ⟨"", ["m"]⟩ (.tooDeep .array))) :=
  ⟨by decide +kernel, by decide +kernel, by decide +kernel, by decide +kernel⟩

end Command

end ProblemMatcher
