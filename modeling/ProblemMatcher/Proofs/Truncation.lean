import ProblemMatcher.Proofs.CommandLine.Check
import ProblemMatcher.Proofs.Regex.Within
import ProblemMatcher.Proofs.Session.Preview
import ProblemMatcher.Proofs.Text.Positions

/-!
# Nothing behind the bound is seen

Both commands and the preview of a session look at the beginning of a sample only. Take two samples
that begin alike, in one file tree or in two: whatever is done with the one comes out the same with
the other. All that may differ is the name under which a session sends what it has found. The places
of matches are places in the part that is looked at, and are shown as positions there.

1. `LivePattern.run_within`: the places that a pattern finds lie within the text it is run on.
2. `Command.check_congr`, `Command.preview_congr`, `Session.preview_withSample`: only what a sample
   is cut to matters.
3. `unseen_behind_bound`: two samples that begin alike are treated alike.
-/

namespace ProblemMatcher

open Text (Position)

/-! ## Places of matches -/

/-- All that the loop yields has been found by a search. -/
theorem Live.exists_search_of_mem_found {search : Live.Search} {size : Nat} {isGlobal : Bool}
    {bound cursor : Nat} {found : Regex.Match}
    (h : found ∈ (iterateFrom search size isGlobal bound cursor).found) :
    ∃ pos, search pos = .ok (some found) := by
  induction bound generalizing cursor with
  | zero => cases h
  | succ bound ih =>
    rw [iterateFrom] at h
    split at h
    · cases h
    · cases h
    · rename_i first hfirst
      rcases List.mem_cons.mp h with rfl | h
      · exact ⟨cursor, hfirst⟩
      · split_ifs at h
        · split at h
          · exact ih h
          · cases h
        · cases h

theorem Live.Yield.eq_found_of_all {α : Type} {y : Yield α} {items : List α}
    (h : y.all = .ok items) : items = y.found := by
  unfold all at h
  split at h
  · cases h
    rfl
  · cases h

/-- The places that a pattern finds lie within the text. -/
theorem LivePattern.run_within [Engine] {p : LivePattern} {text : List Char} {inject : Bool}
    {found : List (Nat × Nat)} {diagnostics : List Diagnostic}
    (h : p.run text.toArray inject = .ok (found, diagnostics)) :
    ∀ place ∈ found, place.1 ≤ text.length ∧ place.2 ≤ text.length := by
  obtain ⟨y, hy, hy'⟩ := bind_eq_ok.mp h
  obtain ⟨items, hall, hitems⟩ := bind_eq_ok.mp hy'
  obtain ⟨q, -, rfl⟩ := map_eq_ok.mp hy
  cases hitems
  intro place hplace
  obtain ⟨item, hitem, rfl⟩ := List.mem_map.mp hplace
  rw [Live.Yield.eq_found_of_all hall] at hitem
  obtain ⟨m, hm, rfl⟩ := List.mem_map.mp hitem
  obtain ⟨pos, hsearch⟩ := Live.exists_search_of_mem_found hm
  exact Regex.search_within hsearch

/-- The ends of ranges are positions of places in a text. -/
def RangesIn (text : List Char) (ranges : List (Position × Position)) : Prop :=
  ∀ range ∈ ranges, ∃ start stop, range.1.IsAt text start ∧ range.2.IsAt text stop

theorem rangesIn_positionRanges {text : List Char} {found : List (Nat × Nat)}
    (h : ∀ place ∈ found, place.1 ≤ text.length ∧ place.2 ≤ text.length) :
    RangesIn text (Session.positionRanges text found) := by
  intro range hrange
  obtain ⟨place, hplace, rfl⟩ := List.mem_map.mp hrange
  obtain ⟨hstart, hstop⟩ := h place hplace
  exact ⟨place.1, place.2, Text.isAt_positionAt hstart, Text.isAt_positionAt hstop⟩

/-! ## Commands -/

namespace Command

variable {t t₁ t₂ : FileTree} {codes : Nat → String} {config sample sample₁ sample₂ : Path}
  {names : List String} {source letters : String} {inject : Bool} {s : Settings}
  {text text₁ text₂ : List Char}

/-- A command is run alike if it reads the same and does the same. -/
theorem run_congr [Engine] {c₁ c₂ : Command}
    (hpaths : c₁.paths.any FileTree.hasNul = c₂.paths.any FileTree.hasNul)
    (hperform : c₁.perform t₁ codes = c₂.perform t₂ codes) :
    run t₁ codes c₁ = run t₂ codes c₂ := by
  rw [run, run, hpaths, hperform]

theorem check_congr [Engine] (hs₁ : Settings.load t₁ t₁.currentDirectory = .ok s)
    (hs₂ : Settings.load t₂ t₂.currentDirectory = .ok s)
    (htext₁ : t₁.readText sample₁ = .ok text₁) (htext₂ : t₂.readText sample₂ = .ok text₂)
    (hbound : s.bound text₁ = s.bound text₂)
    (hload : Matcher.load t₁ config = Matcher.load t₂ config) :
    run t₁ codes (.check config sample₁ names) = run t₂ codes (.check config sample₂ names) := by
  apply run_congr
  · simp [paths, FileTree.hasNul_of_readText htext₁, FileTree.hasNul_of_readText htext₂]
  · simp only [perform, runCheck, settings_of_load hs₁, settings_of_load hs₂, hload,
      sampleText_of_readText htext₁, sampleText_of_readText htext₂, hbound, bind, Except.bind]

theorem preview_congr [Engine] (hs₁ : Settings.load t₁ t₁.currentDirectory = .ok s)
    (hs₂ : Settings.load t₂ t₂.currentDirectory = .ok s) (htext₁ : t₁.readText sample₁ = .ok text₁)
    (htext₂ : t₂.readText sample₂ = .ok text₂) (hbound : s.bound text₁ = s.bound text₂) :
    run t₁ codes (.preview source sample₁ letters inject) =
      run t₂ codes (.preview source sample₂ letters inject) := by
  apply run_congr
  · simp [paths, FileTree.hasNul_of_readText htext₁, FileTree.hasNul_of_readText htext₂]
  · simp only [perform, runPreview, settings_of_load hs₁, settings_of_load hs₂,
      sampleText_of_readText htext₁, sampleText_of_readText htext₂, hbound, bind, Except.bind]

/-- The output of a preview that has tried a pattern, and the output of one that has not. -/
theorem output_of_run_preview [Engine] {out : CommandOutput}
    (hs : Settings.load t t.currentDirectory = .ok s) (htext : t.readText sample = .ok text)
    (h : run t codes (.preview source sample letters inject) = .ok out) :
    out.output = "" ∨ ∃ p found diagnostics, patternOf source letters = .ok p ∧
      p.run (s.bound text).toArray (s.inject && inject) = .ok (found, diagnostics) ∧
      out.output =
        printed (rangeLines (s.bound text) found ++ diagnosticLines codes diagnostics) := by
  unfold run at h
  split_ifs at h
  split at h
  · rename_i output houtput
    cases h
    obtain ⟨s', hs', hpattern⟩ := bind_eq_ok.mp houtput
    obtain ⟨p, hp, hsample⟩ := bind_eq_ok.mp hpattern
    obtain ⟨text', htext', htried⟩ := bind_eq_ok.mp hsample
    obtain ⟨⟨found, diagnostics⟩, hrun, hout⟩ := bind_eq_ok.mp htried
    obtain rfl : s = s' := Except.ok.inj ((settings_of_load hs).symm.trans hs')
    obtain rfl : s.bound text = text' :=
      Except.ok.inj ((sampleText_of_readText htext).symm.trans htext')
    cases hout
    exact .inr ⟨p, found, diagnostics, hp, mapError_eq_ok.mp hrun, rfl⟩
  · cases h
    exact .inl rfl
  · cases h

end Command

/-! ## Previews of a session -/

namespace Session

/-- The session with another sample. -/
def withSample (s : Session) (sample : Path) : Session :=
  { s with settings := { s.settings with sample := some sample } }

/-- A notice about another file. -/
def readdress (uri : String) : Notice → Notice
  | .publish _ findings => .publish uri findings
  | .showError message => .showError message

variable {s : Session} {arguments : List Json.Value} {t t₁ t₂ : FileTree}
  {sample sample₁ sample₂ : Path} {text text₁ text₂ : List Char}

/-- Which pattern is tried does not depend on the sample. -/
theorem trial?_withSample (s : Session) (sample₁ sample₂ : Path) (arguments : List Json.Value) :
    (s.withSample sample₂).trial? arguments =
      ((s.withSample sample₁).trial? arguments).map
        (Option.map fun trial => (trial.1, sample₂)) := by
  unfold trial?
  cases previewTarget? arguments with
  | none => rfl
  | some target =>
    obtain ⟨uri, line⟩ := target
    have hdocument : ∀ sample, (s.withSample sample).document uri = s.document uri := fun _ => rfl
    simp only [hdocument, bind, Except.bind]
    cases s.document uri with
    | error => rfl
    | ok d =>
      dsimp only
      cases (Declaration.find d.text).find? fun d => (d.line : Int) = line with
      | none => rfl
      | some declaration =>
        dsimp only [withSample]
        cases matchersOf d.text with
        | error => rfl
        | ok ms =>
          dsimp only
          cases declaration.pattern? (Declaration.find d.text) ms with
          | error => rfl
          | ok p? => cases p? <;> rfl

theorem evaluate_readdress [Engine] (s : Session) (uri₁ uri₂ : String) (p : LivePattern)
    (text : List Char) :
    s.evaluate uri₂ p text =
      (s.evaluate uri₁ p text).map fun answer => (answer.1, answer.2.map (readdress uri₂)) := by
  unfold evaluate
  cases p.run text.toArray s.isInjecting with
  | error => rfl
  | ok found =>
    simp only [Except.mapError, bind, Except.bind]
    cases Finding.ofDiagnostics found.2 with
    | error => rfl
    | ok findings => rfl

theorem sample_of_trial? {p : LivePattern} {path : Path}
    (h : (s.withSample sample).trial? arguments = .ok (some (p, path))) : path = sample := by
  have hsame := trial?_withSample s sample sample arguments
  rw [h] at hsame
  cases hsame
  rfl

/-- A session with a sample in the place of another that is cut to the same text. -/
theorem preview_withSample [Engine] (htext₁ : t₁.readText sample₁ = .ok text₁)
    (htext₂ : t₂.readText sample₂ = .ok text₂)
    (hbound : s.settings.bound text₁ = s.settings.bound text₂) :
    (s.withSample sample₂).preview t₂ arguments =
      ((s.withSample sample₁).preview t₁ arguments).map fun answer =>
        (answer.1, answer.2.map (readdress (uriOf t₂ sample₂))) := by
  -- both try the same pattern, if any; the samples matter only from there on
  have htrial₂ := trial?_withSample s sample₁ sample₂ arguments
  cases htrial₁ : (s.withSample sample₁).trial? arguments with
  | error =>
    rw [preview_eq, preview_eq, htrial₂, htrial₁]
    rfl
  | ok tried? =>
    rw [htrial₁] at htrial₂
    cases tried? with
    | none =>
      rw [preview_eq, preview_eq, htrial₂, htrial₁]
      rfl
    | some trial =>
      obtain ⟨p, path⟩ := trial
      obtain rfl := sample_of_trial? htrial₁
      have hcut : (s.withSample sample₂).settings.bound text₂ =
          (s.withSample path).settings.bound text₁ := hbound.symm
      rw [preview_of_trial? htrial₁ htext₁, preview_of_trial? htrial₂ htext₂, hcut]
      exact evaluate_readdress _ _ _ p _

/-- The ranges of a reply are ranges in the part of the sample that is looked at. -/
theorem rangesIn_of_preview [Engine] {reply : Reply} {notices : List Notice}
    (htext : t.readText sample = .ok text)
    (h : (s.withSample sample).preview t arguments = .ok (reply, notices)) :
    ∃ ranges, reply = .ranges ranges ∧ RangesIn (s.settings.bound text) ranges := by
  rw [preview_eq] at h
  obtain ⟨tried?, htrial, hattempt⟩ := bind_eq_ok.mp h
  cases tried? with
  | none =>
    cases hattempt
    exact ⟨[], rfl, nofun⟩
  | some trial =>
    obtain ⟨p, path⟩ := trial
    obtain rfl := sample_of_trial? htrial
    rw [attempt, evaluateFile_of_readText htext, evaluate_eq_ok] at hattempt
    obtain ⟨found, diagnostics, findings, hrun, -, rfl, -⟩ := hattempt
    exact ⟨_, rfl, rangesIn_positionRanges (LivePattern.run_within hrun)⟩

end Session

/-! ## Samples that begin alike -/

/-- **What lies behind the bound is not seen.** Take two samples that can be read, of which the
first `n` characters are the same. With settings whose bound is `n`, a check by the same matchers
and a preview of a pattern leave behind the same for both, and so does a preview of a session, but
for the name of the file that its findings are about. All matches that a preview shows or a session
replies with are shown by positions in these `n` characters. -/
theorem unseen_behind_bound [Engine] {n : ℕ} {t₁ t₂ : FileTree} {sample₁ sample₂ : Path}
    {text₁ text₂ : List Char} (htext₁ : t₁.readText sample₁ = .ok text₁)
    (htext₂ : t₂.readText sample₂ = .ok text₂) (hagree : text₁.take n = text₂.take n) :
    (∀ settings : Settings, settings.maxChars = n →
      Settings.load t₁ t₁.currentDirectory = .ok settings →
      Settings.load t₂ t₂.currentDirectory = .ok settings → ∀ codes,
      (∀ config names, Matcher.load t₁ config = Matcher.load t₂ config →
        Command.run t₁ codes (.check config sample₁ names) =
          Command.run t₂ codes (.check config sample₂ names)) ∧
      ∀ source letters inject,
        Command.run t₁ codes (.preview source sample₁ letters inject) =
          Command.run t₂ codes (.preview source sample₂ letters inject) ∧
        ∀ out, Command.run t₁ codes (.preview source sample₁ letters inject) = .ok out →
          out.output = "" ∨ ∃ p found diagnostics, Command.patternOf source letters = .ok p ∧
            p.run (text₁.take n).toArray (settings.inject && inject) = .ok (found, diagnostics) ∧
            out.output = Command.printed (Command.rangeLines (text₁.take n) found ++
              Command.diagnosticLines codes diagnostics) ∧
            RangesIn (text₁.take n) (Session.positionRanges (text₁.take n) found)) ∧
    ∀ session : Session, session.settings.maxChars = n → ∀ arguments,
      (session.withSample sample₂).preview t₂ arguments =
        ((session.withSample sample₁).preview t₁ arguments).map (fun answer =>
          (answer.1, answer.2.map (Session.readdress (Session.uriOf t₂ sample₂)))) ∧
      ∀ reply notices, (session.withSample sample₁).preview t₁ arguments = .ok (reply, notices) →
        ∃ ranges, reply = .ranges ranges ∧ RangesIn (text₁.take n) ranges := by
  have hbound : ∀ settings : Settings, settings.maxChars = n →
      settings.bound text₁ = settings.bound text₂ := by
    intro settings hn
    rw [Settings.bound_eq_take hn, Settings.bound_eq_take hn, hagree]
  constructor
  · intro settings hn hs₁ hs₂ codes
    refine ⟨fun config names => Command.check_congr hs₁ hs₂ htext₁ htext₂ (hbound settings hn), ?_⟩
    intro source letters inject
    refine ⟨Command.preview_congr hs₁ hs₂ htext₁ htext₂ (hbound settings hn), fun out hout => ?_⟩
    have hshown := Command.output_of_run_preview hs₁ htext₁ hout
    rw [Settings.bound_eq_take hn] at hshown
    refine hshown.imp_right ?_
    rintro ⟨p, found, diagnostics, hp, hrun, houtput⟩
    exact ⟨p, found, diagnostics, hp, hrun, houtput,
      rangesIn_positionRanges (LivePattern.run_within hrun)⟩
  · intro session hn arguments
    refine ⟨Session.preview_withSample htext₁ htext₂ (hbound session.settings hn), ?_⟩
    intro reply notices h
    have hranges := Session.rangesIn_of_preview htext₁ h
    rwa [Settings.bound_eq_take hn] at hranges

/-- Two samples that differ behind the third character, and settings with this bound in the
directory above. -/
def cut : FileTree where
  entries :=
    let file (text : String) := Content.file (text.toList.map fun c => .ofNat c.toNat)
    [(["pyproject.toml"], file "[tool.regexpreview]\nmax-input-chars = 3"),
      (["d", "s"], file "a\nab"), (["d", "r"], file "a\na\na")]
  workingDirectory := ["d"]

/-- The third `a` of the one sample is not found, just as the `b` of the other is not. -/
theorem unseen_behind_bound_cut :
    cut.readText ⟨"", ["s"]⟩ = .ok "a\nab".toList ∧
      cut.readText ⟨"", ["r"]⟩ = .ok "a\na\na".toList ∧
      "a\nab".toList.take 3 = "a\na\na".toList.take 3 ∧
      Settings.load cut cut.currentDirectory = .ok { maxChars := 3 } ∧
      Command.run cut (fun _ => "c") (.preview "a" ⟨"", ["r"]⟩ "" true) =
        .ok { output := "0:0-0:1\n1:0-1:1\n" } ∧
      ∀ arguments,
        (Session.withSample { settings := { maxChars := 3 } } ⟨"", ["r"]⟩).preview cut arguments =
          ((Session.withSample { settings := { maxChars := 3 } } ⟨"", ["s"]⟩).preview cut
            arguments).map (fun answer =>
              (answer.1, answer.2.map (Session.readdress (Session.uriOf cut ⟨"", ["r"]⟩)))) := by
  have hone : cut.readText ⟨"", ["s"]⟩ = .ok "a\nab".toList := by decide +kernel
  have hother : cut.readText ⟨"", ["r"]⟩ = .ok "a\na\na".toList := by decide +kernel
  have hagree : "a\nab".toList.take 3 = "a\na\na".toList.take 3 := by decide +kernel
  have hs : Settings.load cut cut.currentDirectory = .ok { maxChars := 3 } := by decide +kernel
  obtain ⟨hcommands, hsessions⟩ := unseen_behind_bound hone hother hagree
  refine ⟨hone, hother, hagree, hs, ?_, fun arguments => (hsessions _ rfl arguments).1⟩
  rw [← ((hcommands _ rfl hs hs (fun _ => "c")).2 "a" "" true).1]
  decide +kernel

end ProblemMatcher
