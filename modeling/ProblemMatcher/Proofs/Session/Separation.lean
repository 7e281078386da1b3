import ProblemMatcher.Proofs.Session.Preview

/-!
# Documents do not interfere

All documents of an editor share one session. Still a session answers for a document as if it were
the only one: for the answers to the events about it, the events about other documents may as well
not have happened. Only the toggles matter for all documents.

1. `Session.AgreeOn`: two sessions look the same from one document.
2. `AgreeOn.step`, `agreeOn_step`: an event keeps this up, and one about another document makes no
   difference.
3. `AgreeOn.answer_eq`: sessions that look the same give the same answers.
4. `AgreeOn.run`: a run beside one without the events that do not matter.
5. `run_separate`: what a document gets from a run.
-/

namespace ProblemMatcher

namespace Event

/-- The document that an event is about. A toggle is about none. -/
def document? : Event → Option String
  | .opened uri _ _ | .changed uri _ | .closed uri | .lens uri => some uri
  | .preview arguments => (Session.unpack arguments).head?.map (·.asText)
  | .toggle => none

def isToggle : Event → Bool
  | .toggle => true
  | _ => false

/-- The events that matter for a document: those about it, and the toggles. -/
def matters (uri : String) (e : Event) : Bool :=
  e.isToggle || e.document? == some uri

theorem document?_of_previewTarget? {arguments : List Json.Value} {uri : String} {line : Int}
    (h : Session.previewTarget? arguments = some (uri, line)) :
    (Event.preview arguments).document? = some uri := by
  unfold Session.previewTarget? at h
  simp only [document?]
  split at h
  · next heq =>
    cases h
    rw [heq]
    rfl
  · next heq =>
    cases h
    rw [heq]
    rfl
  · cases h

end Event

/-- A list is made of two others, each in its own order. -/
inductive Interleaves {α : Type} : List α → List α → List α → Prop
  | nil : Interleaves [] [] []
  | left {a : α} {own others all : List α} (h : Interleaves own others all) :
    Interleaves (a :: own) others (a :: all)
  | right {a : α} {own others all : List α} (h : Interleaves own others all) :
    Interleaves own (a :: others) (a :: all)

namespace Interleaves

variable {α : Type} {own others all : List α}

theorem symm (h : Interleaves own others all) : Interleaves others own all := by
  induction h with
  | nil => exact .nil
  | left _ ih => exact .right ih
  | right _ ih => exact .left ih

/-- What tells the two lists apart finds the one in the other two. -/
theorem filter_eq {p : α → Bool} (h : Interleaves own others all) (hown : ∀ a ∈ own, p a = true)
    (hothers : ∀ a ∈ others, p a = false) : all.filter p = own := by
  induction h with
  | nil => rfl
  | left _ ih =>
    rw [List.forall_mem_cons] at hown
    rw [List.filter_cons_of_pos hown.1, ih hown.2 hothers]
  | right _ ih =>
    rw [List.forall_mem_cons] at hothers
    rw [List.filter_cons_of_neg (by simp [hothers.1]), ih hown hothers.2]

end Interleaves

namespace Session

/-! ## What a document sees -/

theorem document_changeText (s : Session) (uri other text : String) :
    (s.changeText uri text).document other =
      if uri = other then (s.document other).map ({ · with text }) else s.document other := by
  unfold changeText
  cases hlookup : s.documents.lookup uri with
  | some d =>
    rw [document_putDocument]
    split_ifs with heq
    · subst heq
      simp [document, hlookup, Except.map]
    · rfl
  | none =>
    split_ifs with heq
    · subst heq
      simp [document, hlookup, Except.map]
    · rfl

/-- Two sessions look the same from one document. -/
structure AgreeOn (uri : String) (s s' : Session) : Prop where
  settings_eq : s.settings = s'.settings
  chosen_eq : s.chosen = s'.chosen
  document_eq : s.document uri = s'.document uri

section

variable {uri : String} {s s' s'' : Session}

theorem AgreeOn.refl (uri : String) (s : Session) : AgreeOn uri s s :=
  ⟨rfl, rfl, rfl⟩

theorem AgreeOn.trans (h : AgreeOn uri s s') (h' : AgreeOn uri s' s'') : AgreeOn uri s s'' :=
  ⟨h.settings_eq.trans h'.settings_eq, h.chosen_eq.trans h'.chosen_eq,
    h.document_eq.trans h'.document_eq⟩

theorem AgreeOn.isInjecting_eq (h : AgreeOn uri s s') : s.isInjecting = s'.isInjecting := by
  rw [isInjecting, isInjecting, h.chosen_eq, h.settings_eq]

theorem chosen_changeText (s : Session) (uri text : String) :
    (s.changeText uri text).chosen = s.chosen := by
  unfold changeText
  split <;> rfl

/-- An event does the same to what a document sees, whatever it is about. -/
theorem AgreeOn.step (h : AgreeOn uri s s') (e : Event) : AgreeOn uri (s.step e) (s'.step e) := by
  refine ⟨?_, ?_, ?_⟩
  · rw [settings_step, settings_step, h.settings_eq]
  · cases e with
    | toggle => exact congrArg (some !·) h.isInjecting_eq
    | changed other text =>
      exact (chosen_changeText s other text).trans
        (h.chosen_eq.trans (chosen_changeText s' other text).symm)
    | opened | closed | lens | preview => exact h.chosen_eq
  · cases e with
    | opened other text language =>
      simp only [Session.step, document_putDocument, h.document_eq]
    | changed other text => simp only [Session.step, document_changeText, h.document_eq]
    | closed | lens | preview | toggle => exact h.document_eq

/-- An event that does not matter for a document changes nothing that the document sees. -/
theorem agreeOn_step {e : Event} (he : e.matters uri = false) : AgreeOn uri (s.step e) s := by
  have hother : ∀ other, e.document? = some other → other ≠ uri := by
    rintro other hother rfl
    simp [Event.matters, hother] at he
  cases e with
  | opened other text language =>
    refine ⟨rfl, rfl, ?_⟩
    rw [step, document_putDocument, if_neg (hother other rfl)]
  | changed other text =>
    refine ⟨settings_step s _, chosen_changeText s other text, ?_⟩
    rw [step, document_changeText, if_neg (hother other rfl)]
  | toggle => cases he
  | closed | lens | preview => exact .refl uri s

/-! ## Answers -/

theorem AgreeOn.answer_eq [Engine] (h : AgreeOn uri s s') {e : Event} (he : e.matters uri = true)
    (t : FileTree) : s.answer t e = s'.answer t e := by
  -- the one document an event looks up is the one it is about
  have hown : ∀ other, e.document? = some other → s.document other = s'.document other := by
    intro other hother
    cases e with
    | toggle => cases hother
    | opened | changed | closed | lens | preview =>
      obtain rfl : other = uri := by simpa [Event.matters, Event.isToggle, hother] using he
      exact h.document_eq
  cases e with
  | opened other | changed other =>
    simp only [answer, publishFaults, hown other rfl]
  | closed => rfl
  | lens other => simp only [answer, lenses, hown other rfl]
  | preview arguments =>
    refine preview_congr h.settings_eq h.isInjecting_eq fun other line htarget => ?_
    exact hown other (Event.document?_of_previewTarget? htarget)
  | toggle => simp only [answer, h.isInjecting_eq]

/-! ## Runs -/

/-- A run answers the events that matter for a document as a run does that has no other events, from
a session that looks the same. -/
theorem AgreeOn.run [Engine] (h : AgreeOn uri s s') (t : FileTree) (es : List Event) :
    (es.zip (Session.run t s es)).filter (fun answered => answered.1.matters uri) =
      (es.filter (·.matters uri)).zip (Session.run t s' (es.filter (·.matters uri))) := by
  induction es generalizing s s' with
  | nil => rfl
  | cons e rest ih =>
    rw [Session.run, List.zip_cons_cons]
    cases he : e.matters uri with
    | true =>
      have hstep := h.step e
      rw [List.filter_cons_of_pos (by exact he), List.filter_cons_of_pos he, ih hstep,
        hstep.answer_eq he t]
      rfl
    -- only the one session takes the step, and it still looks the same
    | false =>
      rw [List.filter_cons_of_neg (by simp [he]), List.filter_cons_of_neg (by simp [he])]
      exact ih ((agreeOn_step he).trans h)

/-- What is answered in a run to the events about a document. -/
def answersOn [Engine] (t : FileTree) (uri : String) (s : Session) (es : List Event) :
    List (Except SessionFault (Reply × List Notice)) :=
  ((es.zip (s.run t es)).filter fun answered => answered.1.document? == some uri).map Prod.snd

theorem answersOn_filter_matters [Engine] (t : FileTree) (uri : String) (s : Session)
    (es : List Event) :
    s.answersOn t uri es = s.answersOn t uri (es.filter (·.matters uri)) := by
  unfold answersOn
  rw [← (AgreeOn.refl uri s).run t es, List.filter_filter]
  congr 2
  funext answered
  simp only [Event.matters]
  cases answered.1.document? == some uri <;> simp

theorem length_run [Engine] (t : FileTree) (s : Session) (es : List Event) :
    (s.run t es).length = es.length := by
  induction es generalizing s with
  | nil => rfl
  | cons e rest ih => rw [Session.run, List.length_cons, List.length_cons, ih]

/-- If all events are about one document, all answers are. -/
theorem answersOn_of_forall [Engine] {t : FileTree} {es : List Event}
    (h : ∀ e ∈ es, e.document? = some uri) : s.answersOn t uri es = s.run t es := by
  have hall : ∀ answered ∈ es.zip (s.run t es), answered.1.document? == some uri := by
    intro answered hmem
    simpa using h _ (List.of_mem_zip hmem).1
  rw [answersOn, List.filter_eq_self.mpr hall, List.map_snd_zip]
  rw [length_run]

theorem answersOn_of_interleaves [Engine] {t : FileTree} {other : String}
    {own others es : List Event} (hne : uri ≠ other) (hown : ∀ e ∈ own, e.document? = some uri)
    (hothers : ∀ e ∈ others, e.document? = some other) (h : Interleaves own others es) :
    s.answersOn t uri es = s.run t own := by
  have hfilter : es.filter (·.matters uri) = own := by
    refine h.filter_eq (fun e he => ?_) fun e he => ?_
    · simp [Event.matters, hown e he]
    · have hdocument := hothers e he
      cases e with
      | toggle => cases hdocument
      | opened | changed | closed | lens | preview =>
        simp [Event.matters, Event.isToggle, hdocument, hne.symm]
  rw [answersOn_filter_matters, hfilter, answersOn_of_forall hown]

end

/-- **Documents do not interfere.** While the files stay as they are, a run answers the events about
a document as if there had been no others but the toggles. So if the events of two documents come in
any order, each document gets what it would get alone. -/
theorem run_separate [Engine] (t : FileTree) (s : Session) (uri : String) (es : List Event) :
    s.answersOn t uri es = s.answersOn t uri (es.filter (·.matters uri)) ∧
      ∀ other own others, uri ≠ other → (∀ e ∈ own, e.document? = some uri) →
        (∀ e ∈ others, e.document? = some other) → Interleaves own others es →
        s.answersOn t uri es = s.run t own ∧ s.answersOn t other es = s.run t others := by
  refine ⟨answersOn_filter_matters t uri s es, ?_⟩
  intro other own others hne hown hothers h
  exact ⟨answersOn_of_interleaves hne hown hothers h,
    answersOn_of_interleaves hne.symm hothers hown h.symm⟩

/-- A document is typed. -/
def typed : List Event :=
  [.opened "m" "[" none, .changed "m" "[2]", .closed "m"]

/-- A document is opened and previewed. -/
def tried : List Event :=
  [.opened "n" "[]" none, .preview [.arr [.str "n", .int 0]]]

/-- One document is tried while the other one is typed. -/
def typedAndTried : List Event :=
  [.opened "m" "[" none, .opened "n" "[]" none, .changed "m" "[2]",
    .preview [.arr [.str "n", .int 0]], .closed "m"]

theorem run_separate_typedAndTried :
    "m" ≠ "n" ∧ (∀ e ∈ typed, e.document? = some "m") ∧ (∀ e ∈ tried, e.document? = some "n") ∧
      Interleaves typed tried typedAndTried ∧
      answersOn {} "m" {} typedAndTried = run {} {} typed ∧
      answersOn {} "n" {} typedAndTried = run {} {} tried := by
  have hne : "m" ≠ "n" := by decide
  have htyped : ∀ e ∈ typed, e.document? = some "m" := by simp [typed, Event.document?]
  have htried : ∀ e ∈ tried, e.document? = some "n" := by
    simp [tried, Event.document?, unpack, Json.Value.asText]
  have hall : Interleaves typed tried typedAndTried :=
    .left (.right (.left (.right (.left .nil))))
  exact ⟨hne, htyped, htried, hall,
    (run_separate {} {} "m" typedAndTried).2 "n" typed tried hne htyped htried hall⟩

end Session

end ProblemMatcher
