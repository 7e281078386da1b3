import ProblemMatcher.Proofs.Declaration.Layers
import ProblemMatcher.Proofs.Session.Preview

/-!
# Positions that no editor takes

The lines and columns of a diagnostic are those that a tool wrote, of any size. A negative one is
shown as 0. One above the largest that an editor takes is a fault, and as such one of the whole
preview: no place is replied and no other diagnostic is published.

1. `coordinate_eq`: a line or column for an editor.
2. `ofDiagnostics_eq`: the findings for diagnostics, or the first line or column that is too large.
3. `preview_publishes_iff`: when a preview publishes what it can show.
-/

namespace ProblemMatcher

/-- The lines and columns of a range, in the order in which they are checked. -/
def Range.coordinates (r : Range) : List (Axis × Int) :=
  [(.line, r.line), (.character, r.column), (.line, r.endLine), (.character, r.endColumn)]

namespace Diagnostic

/-- An editor takes all lines and columns of a diagnostic. -/
def IsShowable (d : Diagnostic) : Prop :=
  ∀ c ∈ d.range.coordinates, c.2 ≤ maxPosition

instance : DecidablePred IsShowable := fun d =>
  inferInstanceAs (Decidable (∀ c ∈ d.range.coordinates, c.2 ≤ maxPosition))

/-- The first line or column of diagnostics that no editor takes. -/
def firstTooLarge? (ds : List Diagnostic) : Option (Axis × Int) :=
  (ds.flatMap (·.range.coordinates)).find? (maxPosition < ·.2)

theorem firstTooLarge?_eq_none {ds : List Diagnostic} :
    firstTooLarge? ds = none ↔ ∀ d ∈ ds, d.IsShowable := by
  simp only [firstTooLarge?, List.find?_eq_none, List.mem_flatMap, IsShowable, decide_eq_true_eq,
    Int.not_lt]
  exact ⟨fun h d hd c hc => h c ⟨d, hd, hc⟩, fun h c ⟨d, hd, hc⟩ => h d hd c hc⟩

end Diagnostic

namespace Finding

open Diagnostic (firstTooLarge? firstTooLarge?_eq_none)

/-- A diagnostic for an editor, with negative lines and columns shown as 0. -/
def shown (d : Diagnostic) : Finding where
  range := ⟨max d.range.line 0, max d.range.column 0, max d.range.endLine 0, max d.range.endColumn 0⟩
  message := s!"{d.file}: {d.message}"
  severity := d.severity
  code := some d.code

theorem coordinate_eq (axis : Axis) (n : Int) :
    coordinate axis n = if maxPosition < n then .error ⟨axis, n⟩ else .ok (max n 0) := by
  have hmax : (0 : Int) ≤ maxPosition := by decide
  unfold coordinate
  split_ifs with hle hlt hlt
  · omega
  · rfl
  · rw [max_eq_left (hmax.trans hlt.le)]
  · omega

theorem ofDiagnostic_eq (d : Diagnostic) :
    ofDiagnostic d = match d.range.coordinates.find? (maxPosition < ·.2) with
      | some (axis, n) => .error ⟨axis, n⟩
      | none => .ok (shown d) := by
  simp only [ofDiagnostic, coordinate_eq, Range.coordinates, List.find?_cons]
  by_cases hline : maxPosition < d.range.line
  · simp [hline, bind, Except.bind]
  by_cases hcolumn : maxPosition < d.range.column
  · simp [hline, hcolumn, bind, Except.bind]
  by_cases hendLine : maxPosition < d.range.endLine
  · simp [hline, hcolumn, hendLine, bind, Except.bind]
  by_cases hendColumn : maxPosition < d.range.endColumn
  · simp [hline, hcolumn, hendLine, hendColumn, bind, Except.bind]
  · simp [hline, hcolumn, hendLine, hendColumn, bind, Except.bind]
    rfl

/-- Diagnostics are shown all together or not at all. -/
theorem ofDiagnostics_eq (ds : List Diagnostic) :
    ofDiagnostics ds = match firstTooLarge? ds with
      | some (axis, n) => .error ⟨axis, n⟩
      | none => .ok (ds.map shown) := by
  unfold firstTooLarge?
  induction ds with
  | nil => rfl
  | cons d rest ih =>
    rw [ofDiagnostics, ofDiagnostic_eq, List.flatMap_cons, List.find?_append, ih]
    cases d.range.coordinates.find? (maxPosition < ·.2) with
    | some c => rfl
    | none =>
      rw [Option.none_or]
      cases (rest.flatMap (·.range.coordinates)).find? (maxPosition < ·.2) <;> rfl

end Finding

namespace Session

variable {s : Session} {t : FileTree} {arguments : List Json.Value} {p : LivePattern}
  {sample : Path} {text : List Char} {found : List (Nat × Nat)} {ds : List Diagnostic}

theorem preview_of_run [Engine] (htrial : s.trial? arguments = .ok (some (p, sample)))
    (htext : t.readText sample = .ok text)
    (hrun : p.run (s.settings.bound text).toArray s.isInjecting = .ok (found, ds)) :
    s.preview t arguments = match Diagnostic.firstTooLarge? ds with
      | some (axis, n) => .error (.position ⟨axis, n⟩)
      | none => .ok (.ranges (positionRanges (s.settings.bound text) found),
        [.publish (uriOf t sample) (ds.map Finding.shown)]) := by
  rw [preview_of_trial? htrial htext, evaluate, hrun]
  simp only [Except.mapError, bind, Except.bind, Finding.ofDiagnostics_eq]
  cases Diagnostic.firstTooLarge? ds <;> rfl

/-- **When a preview shows what can be shown.** A pattern is tried on a sample, and what it finds has
diagnostics. The preview replies with the places and publishes the diagnostics that can be shown, in
their order, if and only if these are all. Otherwise it has no reply and publishes nothing, for the
first line or column that is too large. -/
theorem preview_publishes_iff [Engine] (htrial : s.trial? arguments = .ok (some (p, sample)))
    (htext : t.readText sample = .ok text)
    (hrun : p.run (s.settings.bound text).toArray s.isInjecting = .ok (found, ds)) :
    (s.preview t arguments = .ok (.ranges (positionRanges (s.settings.bound text) found),
        [.publish (uriOf t sample) ((ds.filter fun d => d.IsShowable).map Finding.shown)]) ↔
      ∀ d ∈ ds, d.IsShowable) ∧
    ∀ axis n, s.preview t arguments = .error (.position ⟨axis, n⟩) ↔
      Diagnostic.firstTooLarge? ds = some (axis, n) := by
  rw [preview_of_run htrial htext hrun, ← Diagnostic.firstTooLarge?_eq_none]
  cases hfirst : Diagnostic.firstTooLarge? ds with
  | some c => simp [PositionFault.mk.injEq, Prod.ext_iff]
  | none =>
    have hall := Diagnostic.firstTooLarge?_eq_none.mp hfirst
    rw [List.filter_eq_self.mpr fun d hd => decide_eq_true (hall d hd)]
    simp

/-- A pattern for a number, taken for the file too, and a message behind it. -/
def numbered : Members := [("pattern", .obj [("regexp", .str "([-0-9]+)(,)(1)(m)")])]

def numberedText : String :=
  "[\x7b\"pattern\": \x7b\n\"regexp\": \"([-0-9]+)(,)(1)(m)\"\n\x7d\x7d]"

/-- A session in which the pattern has been opened. -/
def numberedSession : Session where
  settings := { sample := some ⟨"", ["s"]⟩ }
  documents := [("d", ⟨numberedText, some "json"⟩)]

theorem find_numberedText : Declaration.find numberedText =
    [⟨1, 0, 30, some "([-0-9]+)(,)(1)(m)"⟩] := by cbv

theorem parse_numberedText : Json.parse numberedText = .ok (.arr [.obj numbered]) := by cbv

theorem trial?_numbered : ∃ regex, Regex.compile "([-0-9]+)(,)(1)(m)" = .ok regex ∧
    numberedSession.trial? [.str "d", .int 1] =
      .ok (some ({ regex, offsets := .single }, ⟨"", ["s"]⟩)) := by
  obtain ⟨m, hm⟩ : ∃ m, Matcher.ofMembers (0 : Nat) numbered = .ok m :=
    Declaration.exists_of_isOk (by cbv)
  have hmatchers : matchersOf numberedText = .ok [m] := by
    have hdocument : Matcher.ofDocument (.arr [.obj numbered]) = .ok [m] := by
      show (Matcher.ofMembers (0 : Nat) numbered >>= fun m => .ok [m]) = _
      rw [hm]
      rfl
    rw [matchersOf, parse_numberedText]
    simp only [hdocument]
  obtain ⟨regex, hregex⟩ : ∃ regex, Regex.compile "([-0-9]+)(,)(1)(m)" = .ok regex := ⟨_, rfl⟩
  have hsource : numbered.HasSource "([-0-9]+)(,)(1)(m)" := .object rfl rfl
  have hloops : ¬numbered.Loops := by
    rintro ⟨p, hp, hon⟩
    cases hp
    cases hon
  have hpattern : Declaration.pattern? ⟨1, 0, 30, some "([-0-9]+)(,)(1)(m)"⟩
      (Declaration.find numberedText) [m] = .ok (some { regex, offsets := .single }) := by
    obtain ⟨f, hf⟩ := (Matcher.ofMembers_eq_ok.mp hm).2.isSingle hsource
    obtain ⟨stripped, hstripped, -, -⟩ := Matcher.compile_stripAnchors hregex
    obtain ⟨c, hc, hoffsets⟩ := Members.compile_of_unlooped hm hsource hloops hstripped
    have hsingle : c.offsets = .single := FieldTable.ext fun field => by
      rw [hoffsets]
      cases field <;> rfl
    rw [Declaration.pattern?_eq_of_declared hf hregex rfl, hc, ← hsingle]
    rfl
  refine ⟨regex, hregex, ?_⟩
  have hfound : numberedSession.document "d" = .ok ⟨numberedText, some "json"⟩ := rfl
  simp only [trial?, previewTarget?, unpack, Json.Value.asText, hfound, bind, Except.bind,
    hmatchers]
  rw [find_numberedText] at hpattern ⊢
  simp only [numberedSession]
  rw [List.find?_cons_of_pos rfl]
  simp only [hpattern]
  rfl

/-- A sample for the session. -/
def sampleOf (bytes : List UInt8) : FileTree :=
  { entries := [(["s"], .file bytes)] }

/-- A line in front of the first one, and the last one that an editor takes. -/
def outermost : FileTree :=
  sampleOf "-1,1m\n2147483647,1m".toUTF8.toList

/-- A line like any other, and one that no editor takes. -/
def tooFarDown : FileTree :=
  sampleOf "1,1m\n2147483648,1m".toUTF8.toList

theorem preview_publishes_iff_outermost :
    ∃ p ds, numberedSession.trial? [.str "d", .int 1] = .ok (some (p, ⟨"", ["s"]⟩)) ∧
      outermost.readText ⟨"", ["s"]⟩ = .ok "-1,1m\n2147483647,1m".toList ∧
      p.run "-1,1m\n2147483647,1m".toList.toArray true = .ok ([(0, 5), (6, 19)], ds) ∧
      (∀ d ∈ ds, d.IsShowable) ∧
      numberedSession.preview outermost [.str "d", .int 1] =
        .ok (.ranges [(⟨0, 0⟩, ⟨0, 5⟩), (⟨1, 0⟩, ⟨1, 13⟩)], [.publish "file:///s"
          [⟨⟨0, 1, 0, 1⟩, "-1: m", .error, some .placeholder⟩,
            ⟨⟨2147483647, 1, 2147483647, 1⟩, "2147483647: m", .error, some .placeholder⟩]]) := by
  obtain ⟨regex, hregex, htrial⟩ := trial?_numbered
  have htext : outermost.readText ⟨"", ["s"]⟩ = .ok "-1,1m\n2147483647,1m".toList := by
    decide +kernel
  have hrun : LivePattern.run { regex, offsets := .single }
      "-1,1m\n2147483647,1m".toList.toArray true = .ok ([(0, 5), (6, 19)],
        [⟨"-1", "m", .placeholder, ⟨-1, 1, -1, 1⟩, .error⟩,
          ⟨"2147483647", "m", .placeholder, ⟨2147483647, 1, 2147483647, 1⟩, .error⟩]) := by
    cases hregex
    decide +kernel
  refine ⟨_, _, htrial, htext, hrun, by decide, ?_⟩
  have hall := (preview_publishes_iff htrial htext hrun).1.mpr (by decide)
  exact hall.trans (by decide +kernel)

/-- A diagnostic that cannot be shown takes the other one and all places with it. -/
theorem not_publishes_tooFarDown :
    ¬∀ p text found ds, numberedSession.trial? [.str "d", .int 1] = .ok (some (p, ⟨"", ["s"]⟩)) →
      tooFarDown.readText ⟨"", ["s"]⟩ = .ok text →
      p.run (numberedSession.settings.bound text).toArray numberedSession.isInjecting =
        .ok (found, ds) →
      numberedSession.preview tooFarDown [.str "d", .int 1] =
        .ok (.ranges (positionRanges (numberedSession.settings.bound text) found),
          [.publish (uriOf tooFarDown ⟨"", ["s"]⟩)
            ((ds.filter fun d => d.IsShowable).map Finding.shown)]) := by
  intro hclaim
  obtain ⟨regex, hregex, htrial⟩ := trial?_numbered
  have htext : tooFarDown.readText ⟨"", ["s"]⟩ = .ok "1,1m\n2147483648,1m".toList := by
    decide +kernel
  have hrun : LivePattern.run { regex, offsets := .single }
      "1,1m\n2147483648,1m".toList.toArray true = .ok ([(0, 4), (5, 18)],
        [⟨"1", "m", .placeholder, ⟨1, 1, 1, 1⟩, .error⟩,
          ⟨"2147483648", "m", .placeholder, ⟨2147483648, 1, 2147483648, 1⟩, .error⟩]) := by
    cases hregex
    decide +kernel
  have hpreview := hclaim _ _ _ _ htrial htext hrun
  rw [preview_of_run htrial htext hrun] at hpreview
  cases hpreview

end Session

end ProblemMatcher
