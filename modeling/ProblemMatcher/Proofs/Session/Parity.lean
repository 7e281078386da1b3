import ProblemMatcher.Proofs.Session.Preview
import ProblemMatcher.Proofs.Session.Separation

/-!
# Only the number of toggles counts

A session begins with the choice of `inject` that its settings make, and each toggle turns it over.
No other event has anything to do with it, whether it is answered or not. So at any time the choice
is that of the settings if an even number of toggles has come before, and the other one if the
number is odd; toggles answer with it, and previews try their patterns with it. Files may change
between any two events.

1. `isInjecting_after`: the choice after a run, by induction on the events.
2. `getElem?_answers`: each event is answered by the session after the events before it.
3. `answers_parity`: what toggles and previews answer at any place in a run.
-/

namespace ProblemMatcher.Session

/-! ## The session after a run -/

/-- The session after some events. -/
def after (s : Session) (es : List Event) : Session :=
  es.foldl step s

/-- How many toggles there are among some events. -/
def toggles (es : List Event) : Nat :=
  es.countP Event.isToggle

variable {s : Session} {e : Event}

/-- Only a toggle changes what is chosen, and no event changes the settings. -/
theorem chosen_step (h : e.isToggle = false) : (s.step e).chosen = s.chosen := by
  cases e with
  | toggle => cases h
  | changed uri text => exact chosen_changeText s uri text
  | opened | closed | lens | preview => rfl

theorem isInjecting_step (s : Session) (e : Event) :
    (s.step e).isInjecting = if e.isToggle then !s.isInjecting else s.isInjecting := by
  split_ifs with h
  · cases e with
    | toggle => exact isInjecting_toggle s
    | opened | changed | closed | lens | preview => cases h
  · rw [isInjecting, isInjecting, settings_step, chosen_step (by simpa using h)]

/-- The choice is turned over as often as there are toggles. -/
theorem isInjecting_after (s : Session) (es : List Event) :
    (s.after es).isInjecting = if Odd (toggles es) then !s.isInjecting else s.isInjecting := by
  induction es generalizing s with
  | nil => simp [after, toggles]
  | cons e rest ih =>
    have hafter : s.after (e :: rest) = (s.step e).after rest := rfl
    rw [hafter, ih, isInjecting_step, toggles, toggles, List.countP_cons]
    cases e.isToggle with
    | false => simp
    | true =>
      simp only [if_true, Nat.odd_add_one]
      split_ifs <;> simp_all

theorem after_concat (s : Session) (es : List Event) (e : Event) :
    s.after (es ++ [e]) = (s.after es).step e :=
  List.foldl_append

theorem toggles_concat (es : List Event) : toggles (es ++ [.toggle]) = toggles es + 1 :=
  List.countP_append

theorem settings_after (s : Session) (es : List Event) : (s.after es).settings = s.settings := by
  induction es generalizing s with
  | nil => rfl
  | cons e rest ih => exact (ih (s.step e)).trans (settings_step s e)

/-! ## Answers in a run -/

/-- The answers to a list of events, with the files as they are at each of them. -/
def answers [Engine] :
    Session → List (FileTree × Event) → List (Except SessionFault (Reply × List Notice))
  | _, [] => []
  | s, (t, e) :: rest => (s.step e).answer t e :: answers (s.step e) rest

/-- Each event is answered by the session after the events before it. -/
theorem getElem?_answers [Engine] (s : Session) (before : List (FileTree × Event)) (t : FileTree)
    (e : Event) (rest : List (FileTree × Event)) :
    (s.answers (before ++ (t, e) :: rest))[before.length]? =
      some (((s.after (before.map Prod.snd)).step e).answer t e) := by
  induction before generalizing s with
  | nil => rfl
  | cons first before ih =>
    rw [List.length_cons, List.cons_append, answers, List.getElem?_cons_succ]
    exact ih (s.step first.2)

/-- A preview that tries a pattern on a text replies with the places that the pattern finds in the
part of the text that is looked at. -/
theorem reply_of_trial? [Engine] {t : FileTree} {arguments : List Json.Value} {p : LivePattern}
    {sample : Path} {text : List Char} {reply : Reply} {notices : List Notice}
    (htrial : s.trial? arguments = .ok (some (p, sample))) (htext : t.readText sample = .ok text)
    (h : s.preview t arguments = .ok (reply, notices)) :
    ∃ found diagnostics,
      p.run (s.settings.bound text).toArray s.isInjecting = .ok (found, diagnostics) ∧
      reply = .ranges (positionRanges (s.settings.bound text) found) := by
  rw [preview_of_trial? htrial htext, evaluate_eq_ok] at h
  obtain ⟨found, diagnostics, -, hrun, -, hreply, -⟩ := h
  exact ⟨found, diagnostics, hrun, hreply⟩

/-- **The choice of `inject` depends on the number of toggles alone.** Take any events in a session
that begins with no choice of its own. A toggle answers with the choice of the settings turned over
if it is the first, the third and so on, and with that choice itself if it is the second, the fourth
and so on. A preview that tries a pattern on the text of a sample, and is answered, replies with the
ranges that the pattern finds in the part of the text that is looked at, with `inject` as the
settings choose it after an even number of toggles and turned over after an odd number. No event
changes the settings, and none but a toggle changes what is chosen. -/
theorem answers_parity [Engine] {s : Session} (hs : s.chosen = none)
    (before : List (FileTree × Event)) (t : FileTree) (rest : List (FileTree × Event)) :
    (s.answers (before ++ (t, .toggle) :: rest))[before.length]? =
        some (.ok (.injecting (if Odd (toggles (before.map Prod.snd) + 1) then !s.settings.inject
          else s.settings.inject), [])) ∧
      (∀ arguments p sample text reply notices,
        (s.after (before.map Prod.snd)).trial? arguments = .ok (some (p, sample)) →
        t.readText sample = .ok text →
        (s.answers (before ++ (t, .preview arguments) :: rest))[before.length]? =
          some (.ok (reply, notices)) →
        ∃ found diagnostics,
          p.run (s.settings.bound text).toArray (if Odd (toggles (before.map Prod.snd)) then
            !s.settings.inject else s.settings.inject) = .ok (found, diagnostics) ∧
          reply = .ranges (positionRanges (s.settings.bound text) found)) ∧
      ∀ (s' : Session) (e : Event), (s'.step e).settings = s'.settings ∧
        (e.isToggle = false → (s'.step e).chosen = s'.chosen) := by
  have hchoice : s.isInjecting = s.settings.inject := by rw [isInjecting, hs, Option.getD_none]
  refine ⟨?_, ?_, fun s' e => ⟨settings_step s' e, chosen_step⟩⟩
  · have htoggled := isInjecting_after s (before.map Prod.snd ++ [.toggle])
    rw [after_concat, toggles_concat, hchoice] at htoggled
    rw [getElem?_answers, ← htoggled]
    rfl
  · intro arguments p sample text reply notices htrial htext h
    rw [getElem?_answers] at h
    have hreply := reply_of_trial? htrial htext (Option.some.inj h)
    rw [settings_after, isInjecting_after, hchoice] at hreply
    exact hreply

/-- A session with a sample. -/
def sampled : Session :=
  { settings := { sample := some ⟨"", ["s"]⟩ } }

/-- The sample has two lines with `a`. -/
def twoLines : FileTree :=
  { entries := [(["s"], .file [97, 10, 97])] }

/-- A declaration is typed, and the choice of `inject` turned over. -/
def turnedOver : List (FileTree × Event) :=
  [(twoLines, .opened "m" "\"regexp\": \"a\"" none), (twoLines, .toggle)]

theorem trial?_turnedOver : ∃ p : LivePattern, LivePattern.ofSource "a" = .ok (some p) ∧
    (sampled.after (turnedOver.map Prod.snd)).trial? [.str "m", .int 0] =
      .ok (some (p, ⟨"", ["s"]⟩)) := by
  have hfind : Declaration.find "\"regexp\": \"a\"" = [⟨0, 0, 13, some "a"⟩] := by cbv
  have hmatchers : matchersOf "\"regexp\": \"a\"" = .ok [] := by
    have hparse : Json.parse "\"regexp\": \"a\"" = .error (.malformed .extraData 1 9 8) := by cbv
    rw [matchersOf, hparse]
  have hdocument : (sampled.after (turnedOver.map Prod.snd)).document "m" =
      .ok ⟨"\"regexp\": \"a\"", none⟩ := rfl
  refine ⟨_, rfl, ?_⟩
  simp only [trial?, previewTarget?, unpack, Json.Value.asText, hdocument, bind, Except.bind, hfind,
    hmatchers]
  rfl

/-- After one toggle a preview finds the first `a` only. -/
theorem answers_parity_turnedOver :
    ∃ p : LivePattern, sampled.chosen = none ∧
      (sampled.after (turnedOver.map Prod.snd)).trial? [.str "m", .int 0] =
        .ok (some (p, ⟨"", ["s"]⟩)) ∧
      twoLines.readText ⟨"", ["s"]⟩ = .ok ['a', '\n', 'a'] ∧
      (sampled.answers (turnedOver ++ [(twoLines, .preview [.str "m", .int 0])]))[2]? =
        some (.ok (.ranges [(⟨0, 0⟩, ⟨0, 1⟩)], [.publish "file:///s" []])) ∧
      ∃ found diagnostics,
        p.run (sampled.settings.bound ['a', '\n', 'a']).toArray (if Odd (toggles
          (turnedOver.map Prod.snd)) then !sampled.settings.inject else sampled.settings.inject) =
            .ok (found, diagnostics) ∧
        Reply.ranges [(⟨0, 0⟩, ⟨0, 1⟩)] =
          .ranges (positionRanges (sampled.settings.bound ['a', '\n', 'a']) found) := by
  obtain ⟨p, hp, htrial⟩ := trial?_turnedOver
  have htext : twoLines.readText ⟨"", ["s"]⟩ = .ok ['a', '\n', 'a'] := by decide +kernel
  have hpreview : (sampled.after (turnedOver.map Prod.snd)).preview twoLines
      [.str "m", .int 0] = .ok (.ranges [(⟨0, 0⟩, ⟨0, 1⟩)], [.publish "file:///s" []]) := by
    rw [preview_of_trial? htrial htext, evaluate_eq_ok]
    cases hp
    exact ⟨[(0, 1)], [], [], rfl, rfl, by decide +kernel, by decide +kernel⟩
  have hanswer : (sampled.answers (turnedOver ++ [(twoLines, .preview [.str "m", .int 0])]))[2]? =
      some (.ok (.ranges [(⟨0, 0⟩, ⟨0, 1⟩)], [.publish "file:///s" []])) :=
    (getElem?_answers _ turnedOver twoLines _ []).trans (congrArg some hpreview)
  exact ⟨p, rfl, htrial, htext, hanswer,
    (answers_parity rfl turnedOver twoLines []).2.1 _ p _ _ _ _ htrial htext hanswer⟩

end ProblemMatcher.Session
