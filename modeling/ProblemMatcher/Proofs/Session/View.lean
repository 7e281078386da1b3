import ProblemMatcher.Proofs.Attempt
import ProblemMatcher.Session

/-!
# What an editor shows

An editor shows for each document what was last published for it. It opens a document only while it
is not open, and changes and closes it only while it is. Under these rules what is shown for a
document is always what is wrong with its present text: a session publishes at each event that can
change this, and a preview publishes for the sample alone. Files may change between any two events.

1. `foldl_after_of_not_published`: what is published for other documents changes nothing.
2. `publishFaults_of_json`: what is published for an open document.
3. `exists_sample_of_preview`: a preview publishes for the sample.
4. `Exchange.Faithful.step`, `Exchange.Faithful.run`: the invariant, for an event and for a run.
5. `Exchange.view_run`: what is shown after a run.
-/

namespace ProblemMatcher

open Session (uriOf)

/-! ## Editors -/

/-- What is shown for each URI. -/
abbrev View := String → List Finding

/-- The documents that are open, in their present state. -/
abbrev OpenDocuments := String → Option Document

namespace View

/-- What is published for a document takes the place of what was. -/
def after (view : View) : Notice → View
  | .publish uri findings => Function.update view uri findings
  | .showError _ => view

/-- Without a reply nothing is published. -/
def afterAnswer (view : View) : Except SessionFault (Reply × List Notice) → View
  | .ok (_, notices) => notices.foldl after view
  | .error _ => view

end View

namespace Event

/-- The documents that are open after an event. -/
def openAfter (opened : OpenDocuments) : Event → OpenDocuments
  | .opened uri text language => Function.update opened uri (some { text, language })
  | .changed uri text => Function.update opened uri ((opened uri).map ({ · with text }))
  | .closed uri => Function.update opened uri none
  | _ => opened

/-- A document is opened only while it is not open, and changed or closed only while it is. -/
def IsOrderly (opened : OpenDocuments) : Event → Prop
  | .opened uri _ _ => opened uri = none
  | .changed uri _ | .closed uri => opened uri ≠ none
  | _ => True

end Event

/-- A text is JSON, or it is malformed; reading it does not fail for another reason. -/
def IsReadable (text : String) : Prop :=
  ∀ why, Json.parse text = .error why → ∃ what line column offset,
    why = .malformed what line column offset

/-- The text that an event brings is readable. -/
def Event.IsReadable : Event → Prop
  | .opened _ text _ | .changed _ text => ProblemMatcher.IsReadable text
  | _ => True

/-- A session, the documents that its editor has open, and what the editor shows. -/
structure Exchange where
  session : Session
  opened : OpenDocuments := fun _ => none
  view : View := fun _ => []

namespace Exchange

/-- What an event does, with the files as they are then. -/
def step [Engine] (x : Exchange) (t : FileTree) (e : Event) : Exchange where
  session := x.session.step e
  opened := e.openAfter x.opened
  view := x.view.afterAnswer ((x.session.step e).answer t e)

def run [Engine] : Exchange → List (FileTree × Event) → Exchange
  | x, [] => x
  | x, (t, e) :: rest => run (x.step t e) rest

/-- Each event may be sent when it is, and its text is readable. -/
def Admits [Engine] : Exchange → List (FileTree × Event) → Prop
  | _, [] => True
  | x, (t, e) :: rest => e.IsOrderly x.opened ∧ e.IsReadable ∧ Admits (x.step t e) rest

end Exchange

/-! ## What is published -/

theorem foldl_after_of_not_published {notices : List Notice} {uri : String}
    (h : ∀ findings, .publish uri findings ∉ notices) (view : View) :
    notices.foldl View.after view uri = view uri := by
  induction notices generalizing view with
  | nil => rfl
  | cons notice rest ih =>
    have hrest : ∀ findings, .publish uri findings ∉ rest := fun findings hmem =>
      h findings (List.mem_cons_of_mem _ hmem)
    rw [List.foldl_cons, ih hrest]
    cases notice with
    | showError => rfl
    | publish other findings =>
      have hne : uri ≠ other := by
        rintro rfl
        exact h findings List.mem_cons_self
      exact Function.update_of_ne hne _ _

/-- There is something wrong with what a document declares. -/
def Document.HasFault (d : Document) (uri : String) (fault : DeclarationError) : Prop :=
  d.isJson uri = true ∧ ∃ doc, Json.parse d.text = .ok doc ∧ Matcher.ofDocument doc = .error fault

/-- What is shown for a URI is what is wrong with the document open there. -/
structure Shows (opened : Option Document) (uri : String) (findings : List Finding) : Prop where
  fault : ∀ d fault, opened = some d → d.HasFault uri fault →
    findings = [.ofDocumentFault fault.message]
  noFault : (∀ d fault, opened = some d → ¬d.HasFault uri fault) → findings = []

theorem declarationFault?_eq {text : String} (h : IsReadable text) :
    ∃ fault?, Session.declarationFault? text = .ok fault? ∧ ∀ fault, fault? = some fault ↔
      ∃ doc, Json.parse text = .ok doc ∧ Matcher.ofDocument doc = .error fault := by
  unfold Session.declarationFault?
  cases hparse : Json.parse text with
  | error why =>
    obtain ⟨what, line, column, offset, rfl⟩ := h why hparse
    exact ⟨none, rfl, by simp⟩
  | ok doc =>
    cases hdoc : Matcher.ofDocument doc with
    | error fault => exact ⟨some fault, by simp [hdoc], by simp [hdoc]⟩
    | ok ms => exact ⟨none, by simp [hdoc], by simp [hdoc]⟩

theorem publishFaults_of_not_json {s : Session} {uri : String} {d : Document}
    (hd : s.document uri = .ok d) (hjson : ¬d.isJson uri = true) :
    s.publishFaults uri = .ok [] := by
  simp [Session.publishFaults, hd, hjson, pure, Except.pure, bind, Except.bind]

/-- For an open document of JSON, what is wrong with it is published. -/
theorem publishFaults_of_json {s : Session} {uri : String} {d : Document}
    (hd : s.document uri = .ok d) (hjson : d.isJson uri = true) (hread : IsReadable d.text) :
    ∃ findings, s.publishFaults uri = .ok [.publish uri findings] ∧ Shows (some d) uri findings := by
  obtain ⟨fault?, hfault?, hiff⟩ := declarationFault?_eq hread
  refine ⟨fault?.toList.map fun fault => .ofDocumentFault fault.message, ?_, ?_, ?_⟩
  · simp [Session.publishFaults, hd, hjson, hfault?, pure, Except.pure, bind, Except.bind]
  · intro d' fault heq hfault
    cases heq
    simp [(hiff fault).mpr hfault.2]
  · intro hnone
    cases fault? with
    | none => rfl
    | some fault => exact absurd ⟨hjson, (hiff fault).mp rfl⟩ (hnone d fault rfl)

section

variable {s : Session} {t : FileTree} {reply : Reply} {notices : List Notice} {uri : String}
  {findings : List Finding}

theorem eq_uriOf_of_evaluateFile [Engine] {p : LivePattern} {sample : Path}
    (h : s.evaluateFile t p sample = .ok (reply, notices)) (hmem : .publish uri findings ∈ notices) :
    uri = uriOf t sample := by
  unfold Session.evaluateFile at h
  split at h
  · simp only [Session.evaluate, bind_eq_ok] at h
    obtain ⟨⟨found, diagnostics⟩, _, shown, _, h⟩ := h
    cases h
    cases List.mem_singleton.mp hmem
    rfl
  · cases h
    cases List.mem_singleton.mp hmem
  · cases h

/-- A preview publishes for the sample. -/
theorem exists_sample_of_preview [Engine] {arguments : List Json.Value}
    (h : s.preview t arguments = .ok (reply, notices)) (hmem : .publish uri findings ∈ notices) :
    ∃ sample, s.settings.sample = some sample ∧ uri = uriOf t sample := by
  unfold Session.preview at h
  split at h
  · simp only [Session.previewAt, bind_eq_ok] at h
    obtain ⟨d, -, h⟩ := h
    split at h
    · next declaration sample _ hsample =>
      simp only [bind_eq_ok] at h
      obtain ⟨ms, -, pattern?, -, h⟩ := h
      split at h
      · exact ⟨sample, hsample, eq_uriOf_of_evaluateFile h hmem⟩
      · cases h
        cases hmem
    · cases h
      cases hmem
  · cases h
    cases hmem

end

/-! ## Runs -/

namespace Exchange

/-- The session keeps what is open, and shows what is wrong with it. The session may keep more: a
document stays with it when it is closed. -/
structure Faithful (settings : Settings) (uri : String) (x : Exchange) : Prop where
  settings_eq : x.session.settings = settings
  document_eq : ∀ other d, x.opened other = some d → x.session.document other = .ok d
  shows : Shows (x.opened uri) uri (x.view uri)

theorem Faithful.start (settings : Settings) (uri : String) :
    Faithful settings uri { session := { settings } } where
  settings_eq := rfl
  document_eq := nofun
  shows := ⟨nofun, fun _ => rfl⟩

theorem document_eq_ok {s : Session} {uri : String} {d : Document} :
    s.document uri = .ok d ↔ s.documents.lookup uri = some d := by
  unfold Session.document
  cases s.documents.lookup uri <;> simp

section

variable {settings : Settings} {uri : String} {x : Exchange}

/-- A document is put where it was opened or changed, and what is wrong with it is published. -/
theorem Faithful.put (h : Faithful settings uri x) {other : String} {d : Document}
    (hread : IsReadable d.text)
    (hquiet : ¬d.isJson other = true → other = uri → x.view uri = []) :
    Faithful settings uri {
      session := x.session.putDocument other d
      opened := Function.update x.opened other (some d)
      view := x.view.afterAnswer
        (((x.session.putDocument other d).publishFaults other).map (Reply.done, ·)) } where
  settings_eq := h.settings_eq
  document_eq other' d' hd' := by
    rw [Session.document_putDocument]
    by_cases heq : other = other'
    · subst heq
      simpa using hd'
    · rw [if_neg heq]
      exact h.document_eq other' d' (by simpa [Function.update_of_ne (Ne.symm heq)] using hd')
  shows := by
    -- the fault of a JSON text is published; for others nothing is, and nothing was shown
    have hdoc : (x.session.putDocument other d).document other = .ok d := by
      simp [Session.document_putDocument]
    by_cases hjson : d.isJson other = true
    · obtain ⟨findings, hpublish, hshows⟩ := publishFaults_of_json hdoc hjson hread
      by_cases heq : other = uri
      · subst heq
        simpa [hpublish, Except.map, View.afterAnswer, View.after] using hshows
      · simpa [hpublish, Except.map, View.afterAnswer, View.after,
          Function.update_of_ne (Ne.symm heq)] using h.shows
    · rw [publishFaults_of_not_json hdoc hjson]
      by_cases heq : other = uri
      · subst heq
        refine ⟨fun d' fault hd' hfault => ?_, fun _ => hquiet hjson rfl⟩
        obtain rfl : d = d' := by simpa using hd'
        exact absurd hfault.1 hjson
      · simpa [Except.map, View.afterAnswer, Function.update_of_ne (Ne.symm heq)] using h.shows

/-- A document is closed, and nothing is shown for it any more. -/
theorem Faithful.close (h : Faithful settings uri x) (other : String) :
    Faithful settings uri { x with
      opened := Function.update x.opened other none
      view := Function.update x.view other [] } where
  settings_eq := h.settings_eq
  document_eq other' d hd := by
    by_cases heq : other' = other
    · subst heq
      simp at hd
    · exact h.document_eq other' d (by simpa [Function.update_of_ne heq] using hd)
  shows := by
    by_cases heq : uri = other
    · subst heq
      simpa using ⟨nofun, fun _ => rfl⟩
    · simpa [Function.update_of_ne heq] using h.shows

/-- What is not a document's own event changes nothing, if it publishes nothing for it. -/
theorem Faithful.keep (h : Faithful settings uri x) {s : Session} {view : View}
    (hsettings : s.settings = x.session.settings) (hdocuments : s.documents = x.session.documents)
    (hview : view uri = x.view uri) : Faithful settings uri { x with session := s, view } where
  settings_eq := hsettings.trans h.settings_eq
  document_eq other d hd := by
    unfold Session.document
    rw [hdocuments]
    exact h.document_eq other d hd
  shows := by simpa only [hview] using h.shows

theorem afterAnswer_lenses (view : View) (found : Except SessionFault (List Lens)) :
    view.afterAnswer (found.map (.lenses ·, [])) = view := by
  cases found <;> rfl

theorem afterAnswer_preview [Engine] (h : Faithful settings uri x) {t : FileTree}
    (hsample : ∀ sample, settings.sample = some sample → uri ≠ uriOf t sample)
    (arguments : List Json.Value) :
    x.view.afterAnswer (x.session.preview t arguments) uri = x.view uri := by
  cases hanswer : x.session.preview t arguments with
  | error => rfl
  | ok answer =>
    refine foldl_after_of_not_published (fun findings hmem => ?_) x.view
    obtain ⟨sample, heq, huri⟩ := exists_sample_of_preview hanswer hmem
    exact hsample sample (h.settings_eq ▸ heq) huri

/-- Each event keeps what is shown faithful, for every URI but that of the sample. -/
theorem Faithful.step [Engine] (h : Faithful settings uri x) {t : FileTree} {e : Event}
    (horderly : e.IsOrderly x.opened) (hread : e.IsReadable)
    (hsample : ∀ sample, settings.sample = some sample → uri ≠ uriOf t sample) :
    Faithful settings uri (x.step t e) := by
  cases e with
  | opened other text language =>
    refine h.put hread fun _ heq => ?_
    subst heq
    -- nothing is shown for a document that was not open
    refine h.shows.noFault fun d fault hd => ?_
    rw [horderly] at hd
    cases hd
  | changed other text =>
    obtain ⟨d, hd⟩ := Option.ne_none_iff_exists'.mp horderly
    have hlookup := document_eq_ok.mp (h.document_eq other d hd)
    -- a change keeps the language, so a document that is no JSON now was none before
    have hquiet : ¬d.isJson other = true → other = uri → x.view uri = [] := by
      rintro hjson rfl
      refine h.shows.noFault fun d' fault hd' hfault => ?_
      rw [hd] at hd'
      cases hd'
      exact hjson hfault.1
    have hput := @Faithful.put settings uri x h other { d with text } hread hquiet
    simpa [Exchange.step, Session.step, Session.changeText, hlookup, Event.openAfter, hd,
      Session.answer] using hput
  | closed other => exact h.close other
  | lens other => exact h.keep rfl rfl (congrFun (afterAnswer_lenses x.view _) uri)
  | preview arguments => exact h.keep rfl rfl (afterAnswer_preview h hsample arguments)
  | toggle => exact h.keep rfl rfl rfl

/-- So does a run. -/
theorem Faithful.run [Engine] {history : List (FileTree × Event)} (h : Faithful settings uri x)
    (hadmits : x.Admits history)
    (hsample : ∀ t ∈ history.map Prod.fst, ∀ sample, settings.sample = some sample →
      uri ≠ uriOf t sample) :
    Faithful settings uri (x.run history) := by
  induction history generalizing x with
  | nil => exact h
  | cons pair rest ih =>
    obtain ⟨t, e⟩ := pair
    obtain ⟨horderly, hread, hrest⟩ := hadmits
    rw [List.map_cons, List.forall_mem_cons] at hsample
    exact ih (h.step horderly hread hsample.1) hrest hsample.2

/-- **What is shown is never stale.** Take any events of an editor that opens a document only while
it is not open and changes and closes it only while it is, and whose texts are JSON or malformed;
files may change between the events. After them, what is shown for a URI, unless the sample had it
at one of them, is one error at the start of the document with the message of the fault, if the
document is open, is one of JSON and its present text declares matchers with a fault; and nothing
in every other case. -/
theorem view_run [Engine] {history : List (FileTree × Event)}
    (hadmits : Exchange.Admits { session := { settings } } history)
    (hsample : ∀ t ∈ history.map Prod.fst, ∀ sample, settings.sample = some sample →
      uri ≠ uriOf t sample) :
    (∀ d doc fault, (Exchange.run { session := { settings } } history).opened uri = some d →
        d.isJson uri = true → Json.parse d.text = .ok doc →
        Matcher.ofDocument doc = .error fault →
        (Exchange.run { session := { settings } } history).view uri = [{
          range := ⟨0, 0, 0, 0⟩
          message := fault.message
          severity := .error
          code := none }]) ∧
      ((¬∃ d doc fault, (Exchange.run { session := { settings } } history).opened uri = some d ∧
        d.isJson uri = true ∧ Json.parse d.text = .ok doc ∧
        Matcher.ofDocument doc = .error fault) →
        (Exchange.run { session := { settings } } history).view uri = []) := by
  have hfaithful := (Faithful.start settings uri).run hadmits hsample
  constructor
  · intro d doc fault hd hjson hparse hfault
    exact hfaithful.shows.fault d fault hd ⟨hjson, doc, hparse, hfault⟩
  · intro hnone
    refine hfaithful.shows.noFault fun d fault hd hfault => hnone ?_
    obtain ⟨hjson, doc, hparse, hfault⟩ := hfault
    exact ⟨d, doc, fault, hd, hjson, hparse, hfault⟩

end

theorem exists_place_of_uriOf (t : FileTree) (p : Path) : ∃ place, uriOf t p = Uri.ofPlace place := by
  unfold Session.uriOf
  split <;> exact ⟨_, rfl⟩

/-- A document is typed and previewed, with a file on disk for the sample. -/
def typing : List (FileTree × Event) :=
  let t : FileTree := { entries := [(["sample"], .file [])] }
  [(t, .opened "m" "[" (some "json")), (t, .changed "m" "[2]"),
    (t, .preview [.str "m", .int 0]), ({}, .toggle)]

theorem view_run_typing :
    (Exchange.run { session := { settings := { sample := some ⟨"", ["sample"]⟩ } } } typing).view "m" =
      [⟨⟨0, 0, 0, 0⟩, "matcher #0: expected an object, got int", .error, none⟩] := by
  have hhalf : Json.parse "[" = .error (.malformed .expectingValue 1 2 1) := by cbv
  have hwhole : Json.parse "[2]" = .ok (.arr [.int 2]) := by cbv
  have hfault : Matcher.ofDocument (.arr [.int 2]) = .error (.matcherNotObject 0 "int") := by cbv
  have hadmits : Exchange.Admits { session := { settings := { sample := some ⟨"", ["sample"]⟩ } } }
      typing := by
    refine ⟨rfl, ?_, by simp [Event.IsOrderly, Exchange.step, Event.openAfter], ?_,
      trivial, trivial, trivial, trivial, trivial⟩
    · rintro why h
      rw [hhalf] at h
      cases h
      exact ⟨_, _, _, _, rfl⟩
    · rintro why h
      rw [hwhole] at h
      cases h
  have hsample : ∀ t ∈ typing.map Prod.fst, ∀ sample, some (⟨"", ["sample"]⟩ : Path) = some sample →
      "m" ≠ uriOf t sample := by
    intro t _ sample _ huri
    obtain ⟨place, hplace⟩ := exists_place_of_uriOf t sample
    have hlist := congrArg String.toList (huri.trans hplace)
    simp [Uri.ofPlace] at hlist
  exact (view_run hadmits hsample).1 ⟨"[2]", some "json"⟩ _ _ rfl rfl hwhole hfault

end Exchange

end ProblemMatcher
