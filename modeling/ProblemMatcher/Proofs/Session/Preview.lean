import ProblemMatcher.Proofs.Attempt
import ProblemMatcher.Session

/-!
# What a preview tries

A preview has two parts. It finds out what to try, a pattern and a sample, from the text of the
document and the settings alone. Then it tries that; from there on the document does not matter any
more, only the files, how much of a text is looked at, and the choice of `inject`.

1. `preview_eq`: a preview is these two parts.
2. `preview_of_trial?`, `evaluate_eq_ok`: what trying a pattern on a text gives.
3. `preview_congr`: what a preview depends on.
-/

namespace ProblemMatcher.Session

/-- What a preview tries: a pattern, and the sample to try it on. There is nothing to try without a
declaration at the line, without a sample, or if the declaration has no pattern. -/
def trial? (s : Session) (arguments : List Json.Value) :
    Except SessionFault (Option (LivePattern × Path)) :=
  match previewTarget? arguments with
  | none => .ok none
  | some (uri, line) => do
    let d ← s.document uri
    let ds := Declaration.find d.text
    match ds.find? (fun d => (d.line : Int) = line), s.settings.sample with
    | some declaration, some sample =>
      let ms ← matchersOf d.text
      let p? ← (declaration.pattern? ds ms).mapError .rejected
      return p?.map (·, sample)
    | _, _ => return none

/-- Tries a pattern on a sample, if there is one to try. -/
def attempt [Engine] (s : Session) (t : FileTree) :
    Option (LivePattern × Path) → Except SessionFault (Reply × List Notice)
  | some (p, sample) => s.evaluateFile t p sample
  | none => .ok (.ranges [], [])

variable {s s' : Session} {t : FileTree} {arguments : List Json.Value}

/-- **A preview finds out what to try and tries it.** -/
theorem preview_eq [Engine] (s : Session) (t : FileTree) (arguments : List Json.Value) :
    s.preview t arguments = s.trial? arguments >>= s.attempt t := by
  -- each case is a point where both sides may give up, in the order in which they do
  unfold preview trial?
  cases previewTarget? arguments with
  | none => rfl
  | some target =>
    obtain ⟨uri, line⟩ := target
    simp only [previewAt]
    cases s.document uri with
    | error => rfl
    | ok d =>
      simp only [bind, Except.bind]
      cases (Declaration.find d.text).find? fun d => (d.line : Int) = line with
      | none => rfl
      | some declaration =>
        cases s.settings.sample with
        | none => rfl
        | some sample =>
          cases matchersOf d.text with
          | error => rfl
          | ok ms =>
            dsimp only
            cases declaration.pattern? (Declaration.find d.text) ms with
            | error => rfl
            | ok p? => cases p? <;> rfl

theorem evaluateFile_of_readText [Engine] {p : LivePattern} {sample : Path} {text : List Char}
    (h : t.readText sample = .ok text) :
    s.evaluateFile t p sample = s.evaluate (uriOf t sample) p (s.settings.bound text) := by
  unfold evaluateFile
  rw [h]

theorem preview_of_trial? [Engine] {p : LivePattern} {sample : Path} {text : List Char}
    (htrial : s.trial? arguments = .ok (some (p, sample))) (htext : t.readText sample = .ok text) :
    s.preview t arguments = s.evaluate (uriOf t sample) p (s.settings.bound text) := by
  rw [preview_eq, htrial]
  exact evaluateFile_of_readText htext

/-- The reply has the places that the pattern finds under the choice of `inject`. -/
theorem evaluate_eq_ok [Engine] {uri : String} {p : LivePattern} {text : List Char} {reply : Reply}
    {notices : List Notice} :
    s.evaluate uri p text = .ok (reply, notices) ↔
      ∃ found diagnostics findings, p.run text.toArray s.isInjecting = .ok (found, diagnostics) ∧
        Finding.ofDiagnostics diagnostics = .ok findings ∧
        reply = .ranges (positionRanges text found) ∧ notices = [.publish uri findings] := by
  unfold evaluate
  constructor
  · intro h
    obtain ⟨⟨found, diagnostics⟩, hrun, h⟩ := bind_eq_ok.mp h
    obtain ⟨findings, hfindings, h⟩ := bind_eq_ok.mp h
    cases h
    exact ⟨found, diagnostics, findings, mapError_eq_ok.mp hrun, mapError_eq_ok.mp hfindings, rfl,
      rfl⟩
  · rintro ⟨found, diagnostics, findings, hrun, hfindings, rfl, rfl⟩
    refine bind_eq_ok.mpr ⟨(found, diagnostics), mapError_eq_ok.mpr hrun, ?_⟩
    exact bind_eq_ok.mpr ⟨findings, mapError_eq_ok.mpr hfindings, rfl⟩

/-! ## What a preview depends on -/

theorem trial?_congr (hsettings : s'.settings = s.settings)
    (hdocument : ∀ uri line, previewTarget? arguments = some (uri, line) →
      s'.document uri = s.document uri) :
    s'.trial? arguments = s.trial? arguments := by
  unfold trial?
  cases htarget : previewTarget? arguments with
  | none => rfl
  | some target =>
    obtain ⟨uri, line⟩ := target
    dsimp only
    rw [hsettings, hdocument uri line htarget]

theorem attempt_congr [Engine] (hsettings : s'.settings = s.settings)
    (hinject : s'.isInjecting = s.isInjecting) : s'.attempt t = s.attempt t := by
  funext trial?
  cases trial? with
  | none => rfl
  | some trial =>
    simp only [attempt, evaluateFile, evaluate]
    rw [hsettings, hinject]

/-- A preview depends on the settings, the choice of `inject` and the document that it names. -/
theorem preview_congr [Engine] (hsettings : s'.settings = s.settings)
    (hinject : s'.isInjecting = s.isInjecting)
    (hdocument : ∀ uri line, previewTarget? arguments = some (uri, line) →
      s'.document uri = s.document uri) :
    s'.preview t arguments = s.preview t arguments := by
  rw [preview_eq, preview_eq, trial?_congr hsettings hdocument, attempt_congr hsettings hinject]

end ProblemMatcher.Session
