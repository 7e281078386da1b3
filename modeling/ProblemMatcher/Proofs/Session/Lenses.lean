import ProblemMatcher.Proofs.Declaration.ByLine
import ProblemMatcher.Proofs.Session.Preview

/-!
# Lenses

A lens stands on a declaration and asks for a preview of it by the number of its line. As no two
declarations share a line, what is tried is the declaration that the lens stands on. The editor puts
the lens on the line that has this number for the editor: that is the line of the declaration as
long as the text in front breaks only where the editor breaks it.

1. `trial?_eq_trialFor`: what a preview that names the line of a declaration tries.
2. `lenses_open_own`: each lens opens its own declaration.
3. `lenses_follow_editor`: when a lens is on the line on which the editor shows the declaration.
-/

namespace ProblemMatcher

open Declaration Json Text

variable {s : Session} {uri text : String} {language : Option String} {d : Declaration}
  {arguments : List Value}

namespace Session

/-- What a preview of a declaration tries. -/
def trialFor (s : Session) (text : String) (d : Declaration) :
    Except SessionFault (Option (LivePattern × Path)) :=
  match s.settings.sample with
  | none => .ok none
  | some sample => do
    let ms ← matchersOf text
    let p? ← (d.pattern? (find text) ms).mapError .rejected
    return p?.map (·, sample)

theorem trial?_eq_trialFor (hdocument : s.document uri = .ok ⟨text, language⟩) (hd : d ∈ find text)
    (htarget : previewTarget? arguments = some (uri, (d.line : Int))) :
    s.trial? arguments = s.trialFor text d := by
  unfold trial? trialFor
  rw [htarget]
  dsimp only
  rw [hdocument]
  simp only [bind, Except.bind, find?_line hd]
  cases s.settings.sample <;> rfl

end Session

namespace Lens

open Session

/-- A lens stands on a declaration of a document, and pressing it tries this declaration: whatever
else has happened in the session, its line is that of no other declaration, and a chain is tried by
the number of chains on the lines before. An editor may send the arguments as one list. -/
structure Opens [Engine] (l : Lens) (uri text : String) (d : Declaration) : Prop where
  uri_eq : l.uri = uri
  range_eq : l.range = ⟨d.line, d.column, d.line, d.endColumn⟩
  selects : (find text).find? (fun d' => (d'.line : Int) = l.range.line) = some d
  tries : ∀ (s : Session) (t : FileTree) (language : Option String),
    s.document uri = .ok ⟨text, language⟩ →
      s.preview t l.arguments = s.trialFor text d >>= s.attempt t ∧
        s.preview t [.arr l.arguments] = s.trialFor text d >>= s.attempt t
  index : d.isChain = true →
    d.chainIndex (find text) = (find text).countP fun c => c.isChain && decide (c.line < d.line)

theorem opens_lensOf [Engine] (hd : d ∈ find text) :
    (lensOf uri d).Opens uri text d where
  uri_eq := rfl
  range_eq := rfl
  selects := find?_line hd
  tries s t language hdocument := by
    have hflat : s.trial? (lensOf uri d).arguments = s.trialFor text d :=
      trial?_eq_trialFor hdocument hd rfl
    have hlist : s.trial? [.arr (lensOf uri d).arguments] = s.trialFor text d :=
      trial?_eq_trialFor hdocument hd rfl
    exact ⟨by rw [preview_eq, hflat], by rw [preview_eq, hlist]⟩
  index hchain := chainIndex_eq hd hchain

end Lens

namespace Session

theorem lenses_of_isJson (hdocument : s.document uri = .ok ⟨text, language⟩)
    (hjson : Document.isJson ⟨text, language⟩ uri = true) :
    s.lenses uri = .ok ((find text).map (lensOf uri)) := by
  unfold lenses
  rw [hdocument]
  simp only [bind, Except.bind, if_pos hjson]
  rfl

/-- **Each lens opens its own declaration.** The declarations of a text stand on lines of their own,
in order, and each takes up some of the part of its line that is looked at. The lenses of a document
of JSON are those of its declarations, the n-th that of the n-th, and each opens that declaration. -/
theorem lenses_open_own [Engine] (text : String) :
    (find text).Pairwise (·.line < ·.line) ∧
      (∀ d ∈ find text, d.column < d.endColumn ∧ d.endColumn ≤ 1000) ∧
      ∀ (s : Session) (uri : String) (language : Option String),
        s.document uri = .ok ⟨text, language⟩ → Document.isJson ⟨text, language⟩ uri = true →
          ∃ ls, s.lenses uri = .ok ls ∧
            List.Forall₂ (fun l d => l.Opens uri text d) ls (find text) := by
  refine ⟨pairwise_line_inLines 0 _, fun d => extent_of_mem_find, ?_⟩
  intro s uri language hdocument hjson
  refine ⟨_, lenses_of_isJson hdocument hjson, ?_⟩
  rw [List.forall₂_map_left_iff, List.forall₂_same]
  exact fun d hd => Lens.opens_lensOf hd

/-- A session with one document of JSON open. -/
def showing (text : String) : Session where
  documents := [("d", ⟨text, some "json"⟩)]

/-- Two chains that are written alike, and a pattern. -/
def twinChains : String :=
  "[\x7b\n\"pattern\": [\"a\"]\n\x7d, \x7b\r\n\"pattern\": [\"a\"]\r\x7d, " ++
    "\x7b\"pattern\": \x7b\n \"regexp\": \"b\"\n\x7d\x7d]"

theorem lenses_open_own_twinChains :
    (showing twinChains).document "d" = .ok ⟨twinChains, some "json"⟩ ∧
      Document.isJson ⟨twinChains, some "json"⟩ "d" = true ∧
      ∃ ls, (showing twinChains).lenses "d" = .ok ls ∧
        ls.map (·.range) = [⟨1, 0, 1, 12⟩, ⟨3, 0, 3, 12⟩, ⟨5, 1, 5, 14⟩] ∧
        List.Forall₂ (fun l d => l.Opens "d" twinChains d) ls (find twinChains) := by
  obtain ⟨ls, hls, hopens⟩ :=
    (lenses_open_own twinChains).2.2 (showing twinChains) "d" (some "json") rfl rfl
  have hranges : ((find twinChains).map (lensOf "d")).map (·.range) =
      [⟨1, 0, 1, 12⟩, ⟨3, 0, 3, 12⟩, ⟨5, 1, 5, 14⟩] := by decide +kernel
  obtain rfl : (find twinChains).map (lensOf "d") = ls := by
    rw [@lenses_of_isJson _ "d" _ (some "json") rfl rfl] at hls
    exact Except.ok.inj hls
  exact ⟨rfl, rfl, _, hls, hranges, hopens⟩

/-! ## The lines of an editor -/

/-- **Lenses follow the lines of the editor where the text does.** In a text that breaks only where
an editor breaks it, the declarations are those in the lines of the editor: each lens is on the
editor's line of its declaration, and a preview for a line is one of the declaration in the line
that the editor sees there. In any text this holds for the lines in front of the first foreign
break; and the number of the line of a declaration is too large by the foreign breaks in front of
it. -/
theorem lenses_follow_editor (text : String) :
    (HasEditorBreaks text.toList → find text = findByEditor text ∧
        (∀ n : Nat, (find text).find? (fun d => (d.line : Int) = n) = inEditorLine? text n) ∧
        ∀ (s : Session) (uri : String) (language : Option String),
          s.document uri = .ok ⟨text, language⟩ → Document.isJson ⟨text, language⟩ uri = true →
            s.lenses uri = .ok ((findByEditor text).map (lensOf uri))) ∧
      (∀ front back, text.toList = front ++ back → HasEditorBreaks front →
        (find text).filter (·.line < countBreaks isEditorBreak front) =
          (findByEditor text).filter (·.line < countBreaks isEditorBreak front)) ∧
      ∀ d ∈ find text, ∃ earlier, text.toList = earlier ++ place text d ∧
        d.line = countBreaks isEditorBreak earlier + earlier.countP isForeignBreak := by
  refine ⟨fun h => ?_, fun front back => filter_line_findByEditor, fun d => line_eq_add⟩
  have hsame := find_eq_findByEditor h
  refine ⟨hsame, fun n => ?_, fun s uri language hdocument hjson => ?_⟩
  · rw [find?_line_eq, splitLines_eq_editor h, inEditorLine?]
  · rw [lenses_of_isJson hdocument hjson, hsame]

/-- A chain, and behind it a pattern whose matcher is named by a line separator. -/
def separated : String :=
  "[\x7b\n\"pattern\": [\"a\"]\n\x7d, " ++
    "\x7b\"name\": \"\u2028\", \"pattern\": \x7b\n\"regexp\": \"b\"\n\x7d\x7d]"

/-- The lines of the one text end in a line feed, in both characters or in a carriage return; in the
other the two lines in front of the separator are those of the editor. -/
theorem lenses_follow_editor_mixedBreaks :
    (HasEditorBreaks twinChains.toList ∧ find twinChains = findByEditor twinChains ∧
        (find twinChains).find? (fun d => (d.line : Int) = (5 : Nat)) = inEditorLine? twinChains 5 ∧
        (showing twinChains).lenses "d" = .ok ((findByEditor twinChains).map (lensOf "d"))) ∧
      HasEditorBreaks (separated.toList.take 33) ∧
      countBreaks isEditorBreak (separated.toList.take 33) = 2 ∧
      (find separated).filter (·.line < 2) = (findByEditor separated).filter (·.line < 2) := by
  have hbreaks : HasEditorBreaks twinChains.toList := by decide +kernel
  have hfront : HasEditorBreaks (separated.toList.take 33) := by decide +kernel
  have hcount : countBreaks isEditorBreak (separated.toList.take 33) = 2 := by decide +kernel
  obtain ⟨hsame, hline, hlenses⟩ := (lenses_follow_editor twinChains).1 hbreaks
  have hfilter := (lenses_follow_editor separated).2.1 _ _ (List.take_append_drop 33 _).symm hfront
  rw [hcount] at hfilter
  exact ⟨⟨hbreaks, hsame, hline 5, hlenses _ "d" (some "json") rfl rfl⟩, hfront, hcount, hfilter⟩

/-- The matchers are accepted, but the lens of the pattern is on the line behind its own, and at its
own line there is nothing to preview. -/
theorem not_lenses_follow_editor :
    ((Json.parse separated).toOption.bind fun doc => (Matcher.ofDocument doc).toOption.map
        List.length) = some 2 ∧
      find separated ≠ findByEditor separated ∧ (find separated).map (·.line) = [1, 4] ∧
      (findByEditor separated).map (·.line) = [1, 3] ∧
      (find separated).find? (fun d => (d.line : Int) = 3) = none := by
  refine ⟨by cbv, ?_⟩
  decide +kernel

end Session

end ProblemMatcher
