import ProblemMatcher.Proofs.Declaration.Layers
import ProblemMatcher.Proofs.Session.Lenses

/-!
# Previews with the fields of their own matcher

A declaration of a single pattern is not known by its place among the others: its source is found on
its line, and the first matcher with this source supplies the offsets. In a document of single
patterns the n-th declaration is that of the n-th matcher if the lines taken for declarations are
those of the matchers. It is tried with the offsets of the n-th matcher, too, unless an earlier one
has the same source and other offsets.

1. `ListsSingles.source_eq`: the n-th declaration has the source of the n-th matcher.
2. `trial?_eq_first`: it is tried with the offsets of the first matcher that has this source.
3. `tries_own_fields`: when these are the offsets of the n-th matcher.
-/

namespace ProblemMatcher

open Json Declaration Text

/-- The matchers of a document are single patterns that do not repeat, each given by an object whose
`regexp` has a line to itself. -/
structure ListsSingles (text : String) (o : Outline) (ms : List Matcher) : Prop where
  parsed : Json.parse text = .ok o.value
  outlines : Outlines text o
  accepted : Matcher.ofDocument o.value = .ok ms
  ownLine : ∀ v ∈ o.declared, ∃ place member, v.sourceMember? = some (place, member) ∧
    HasOwnLine text place
  unlooped : ∀ m ∈ ms, ∀ f ∈ m.fragments, f.loop = false

/-- A text as it is read is a leaf. -/
theorem Json.Reads.readScalar_of_value {o : Outline} {s rest : List Char} {source : String}
    (h : Reads (.value o) s rest) (hvalue : o.value = .str source) :
    readScalar s = .ok (.str source, rest) := by
  cases h with
  | leaf h =>
    cases hvalue
    exact h
  | noItems | array | noMembers | object => cases hvalue

namespace ListsSingles

variable {text : String} {o : Outline} {ms : List Matcher}

theorem forall₂_sourceAt (h : ListsSingles text o ms) :
    List.Forall₂ (Outline.SourceAt o) o.sourcePlaces ms := by
  refine Outline.forall₂_sourcePlaces h.accepted fun v hv => ?_
  obtain ⟨place, member, hsource, -⟩ := h.ownLine v hv
  rw [hsource]
  rfl

theorem hasOwnLine (h : ListsSingles text o ms) {place : List Char}
    (hplace : place ∈ o.sourcePlaces) : HasOwnLine text place := by
  obtain ⟨v, hv, hplace⟩ := List.mem_filterMap.mp hplace
  obtain ⟨place', member, hsource, hown⟩ := h.ownLine v hv
  rw [hsource] at hplace
  cases hplace
  exact hown

theorem exists_fragment (h : ListsSingles text o ms) {m : Matcher} (hm : m ∈ ms) :
    m.chained = false ∧ ∃ f, m.fragments = [f] ∧ f.loop = false := by
  obtain ⟨place, -, hat⟩ := exists_of_forall₂ h.forall₂_sourceAt.flip m hm
  obtain ⟨f, -, hf, -, -⟩ := hat.source
  exact ⟨hat.chained, f, hf, h.unlooped m hm f (by simp [hf])⟩

theorem length_patterns (h : ListsSingles text o ms)
    (hplaces : (patterns text).map (place text) = o.sourcePlaces) :
    (patterns text).length = ms.length := by
  rw [← h.forall₂_sourceAt.length_eq, ← hplaces, List.length_map]

/-- The n-th declaration has the source of the n-th matcher. -/
theorem source_eq (h : ListsSingles text o ms)
    (hplaces : (patterns text).map (place text) = o.sourcePlaces) {n : Nat} {d : Declaration}
    {m : Matcher} {f : Fragment} (hd : (patterns text)[n]? = some d) (hm : ms[n]? = some m)
    (hf : m.fragments = [f]) : d.source = some f.source := by
  have hplace : o.sourcePlaces[n]? = some (place text d) := by
    rw [← hplaces, List.getElem?_map, hd]
    rfl
  obtain ⟨body, hbody, hsource⟩ := exists_declaresAt (List.mem_of_getElem? hd)
  obtain ⟨hi, hplacei⟩ := List.getElem?_eq_some_iff.mp hplace
  obtain ⟨hi', hmi⟩ := List.getElem?_eq_some_iff.mp hm
  have hat : Outline.SourceAt o (place text d) m := by
    simpa [hplacei, hmi] using h.forall₂_sourceAt.get hi hi'
  obtain ⟨f', member, hf', hmember, hvalue⟩ := hat.source
  obtain rfl : f' = f := by simpa using hf'.symm.trans hf
  obtain ⟨start, behind, hname, hreads⟩ := h.outlines.reads_member hmember
  rw [hsource, unescape_of_hasOwnLine (h.hasOwnLine (List.mem_of_getElem? hplace)) hbody hname
    (hreads.readScalar_of_value hvalue)]

/-- The offsets for the source of a matcher are those of the first one that has it. -/
theorem exists_matcherOf? (h : ListsSingles text o ms) {m : Matcher} {f : Fragment} (hm : m ∈ ms)
    (hf : m.fragments = [f]) : ∃ m₀ ∈ ms, matcherOf? f.source ms = some m₀ ∧
      ∃ f₀, m₀.fragments = [f₀] ∧ f₀.source = f.source := by
  have hsome : (matcherOf? f.source ms).isSome = true := by
    refine List.find?_isSome.mpr ⟨m, hm, ?_⟩
    simp [(h.exists_fragment hm).1, hf]
  obtain ⟨m₀, hm₀⟩ := Option.isSome_iff_exists.mp hsome
  have hmem := List.mem_of_find?_eq_some hm₀
  obtain ⟨-, f₀, hf₀, -⟩ := h.exists_fragment hmem
  have hhas : m₀.chained = false ∧ f₀.source = f.source := by
    simpa [hf₀] using List.find?_some hm₀
  exact ⟨m₀, hmem, hm₀, f₀, hf₀, hhas.2⟩

end ListsSingles

/-- Matchers with one source that can be tried have the same offsets. -/
def AgreeOnFields (ms : List Matcher) : Prop :=
  ∀ m ∈ ms, ∀ m' ∈ ms, ∀ f ∈ m.fragments, ∀ f' ∈ m'.fragments, f.source = f'.source →
    (∃ regex, Regex.compile f.source = .ok regex) → m.SameOffsets m'

namespace Session

/-- A pattern as what a preview tries. -/
def trialOf (p? : Except Regex.Rejection (Option LivePattern)) (sample : Path) :
    Except SessionFault (Option (LivePattern × Path)) :=
  (p?.mapError .rejected).map fun p? => p?.map (·, sample)

theorem trialOf_injective (sample : Path) : Function.Injective (trialOf · sample) := by
  have hpair : Function.Injective fun p : LivePattern => (p, sample) :=
    fun _ _ h => congrArg Prod.fst h
  intro p? q? h
  cases p? with
  | error cause =>
    cases q? with
    | error cause' =>
      cases h
      rfl
    | ok => cases h
  | ok p? =>
    cases q? with
    | error => cases h
    | ok q? => exact congrArg Except.ok (Option.map_injective hpair (Except.ok.inj h))

/-- Each declaration of a pattern is tried with the source and the offsets of the matcher that has
its number. -/
def TriesOwn (s : Session) (uri : String) (sample : Path) (ds : List Declaration)
    (ms : List Matcher) : Prop :=
  ∀ (n : Nat) (d : Declaration) (m : Matcher) (f : Fragment) (arguments : List Value),
    ds[n]? = some d → ms[n]? = some m → m.fragments = [f] →
      previewTarget? arguments = some (uri, (d.line : Int)) →
        d.source = some f.source ∧ s.trial? arguments = trialOf (m.asWritten f) sample

variable {s : Session} {uri : String} {doc : Document} {o : Outline} {ms : List Matcher}
  {sample : Path} {d : Declaration} {arguments : List Value}

theorem trial?_of_mem_find (hdocument : s.document uri = .ok doc)
    (hsample : s.settings.sample = some sample) (hms : matchersOf doc.text = .ok ms)
    (hd : d ∈ find doc.text) (htarget : previewTarget? arguments = some (uri, (d.line : Int))) :
    s.trial? arguments = trialOf (d.pattern? (find doc.text) ms) sample := by
  rw [trial?_eq_trialFor hdocument hd htarget, trialFor, hsample, hms, trialOf]
  simp only [bind, Except.bind]
  cases d.pattern? (find doc.text) ms <;> rfl

/-- A declaration that has the source of a matcher is tried with the offsets of the first matcher
that has it. -/
theorem trial?_eq_first (hdocument : s.document uri = .ok doc)
    (hsample : s.settings.sample = some sample) (h : ListsSingles doc.text o ms)
    (hd : d ∈ find doc.text) (htarget : previewTarget? arguments = some (uri, (d.line : Int)))
    {m₀ : Matcher} {f₀ : Fragment} (hsource : d.source = some f₀.source)
    (hm₀ : matcherOf? f₀.source ms = some m₀) :
    s.trial? arguments = trialOf (m₀.asWritten f₀) sample := by
  have hms : matchersOf doc.text = .ok ms := by
    unfold matchersOf
    rw [h.parsed]
    dsimp only
    rw [h.accepted]
  rw [trial?_of_mem_find hdocument hsample hms hd htarget, pattern?_of_source hsource hm₀]

/-- If all are tried with their own offsets, these are those of the first matcher with the same
source. -/
theorem TriesOwn.asWritten_eq_first (hown : s.TriesOwn uri sample (patterns doc.text) ms)
    (hdocument : s.document uri = .ok doc) (hsample : s.settings.sample = some sample)
    (h : ListsSingles doc.text o ms)
    (hplaces : (patterns doc.text).map (place doc.text) = o.sourcePlaces) {m m₀ : Matcher}
    {f f₀ : Fragment} (hm : m ∈ ms) (hf : m.fragments = [f])
    (hm₀ : matcherOf? f₀.source ms = some m₀) (hsource : f₀.source = f.source) :
    m.asWritten f = m₀.asWritten f₀ := by
  obtain ⟨n, hn⟩ := List.mem_iff_getElem?.mp hm
  obtain ⟨hlt, -⟩ := List.getElem?_eq_some_iff.mp hn
  rw [← h.length_patterns hplaces] at hlt
  have hd := List.getElem?_eq_getElem hlt
  have htarget : previewTarget? [.str uri, .int (patterns doc.text)[n].line] =
      some (uri, ((patterns doc.text)[n].line : Int)) := rfl
  obtain ⟨hdsource, htrial⟩ := hown n _ m f _ hd hn hf htarget
  have hfind := (List.mem_filter.mp (List.mem_of_getElem? hd)).1
  rw [trial?_eq_first hdocument hsample h hfind htarget (hsource ▸ hdsource) hm₀] at htrial
  exact (trialOf_injective sample htrial).symm

/-- **When single patterns are tried with the fields of their own matcher.** Let all matchers of a
document be single patterns that do not repeat, each with its `regexp` on a line of its own. The
sources of the matchers have their places in the text, in the same order. The declarations found are
at these places, the n-th at the n-th, if and only if the lines taken for declarations of patterns
are those of the matchers. Then there are as many as matchers, and each of them is tried with the
source and the offsets of its own matcher if and only if no two matchers have the same source, which
can be tried, and different offsets. -/
theorem tries_own_fields (hdocument : s.document uri = .ok doc)
    (hsample : s.settings.sample = some sample) (h : ListsSingles doc.text o ms) :
    List.Forall₂ (Outline.SourceAt o) o.sourcePlaces ms ∧
      (IsNumbered doc.text o ↔ (patterns doc.text).map (place doc.text) = o.sourcePlaces) ∧
      (IsNumbered doc.text o → (patterns doc.text).length = ms.length ∧
        (s.TriesOwn uri sample (patterns doc.text) ms ↔ AgreeOnFields ms)) := by
  refine ⟨h.forall₂_sourceAt, isNumbered_iff h.outlines, fun hnumbered => ?_⟩
  have hplaces := (isNumbered_iff h.outlines).mp hnumbered
  have hlength := h.length_patterns hplaces
  refine ⟨hlength, ?agree, ?own⟩
  case agree =>
    intro hown m hm m' hm' f hf f' hf' hsource hwell
    obtain ⟨-, g, hg, hloop⟩ := h.exists_fragment hm
    obtain ⟨-, g', hg', hloop'⟩ := h.exists_fragment hm'
    obtain rfl : f = g := by simpa [hg] using hf
    obtain rfl : f' = g' := by simpa [hg'] using hf'
    obtain ⟨m₀, -, hm₀, f₀, -, hsource₀⟩ := h.exists_matcherOf? hm hg
    rw [← hsource₀] at hm₀
    refine (Matcher.asWritten_eq_iff hg hg' hloop hloop' hsource).mp ?_ hwell
    calc m.asWritten f = m₀.asWritten f₀ :=
          hown.asWritten_eq_first hdocument hsample h hplaces hm hg hm₀ hsource₀
      _ = m'.asWritten f' :=
          (hown.asWritten_eq_first hdocument hsample h hplaces hm' hg' hm₀
            (hsource₀.trans hsource)).symm
  case own =>
    intro hagree n d m f arguments hd hm hf htarget
    have hmem := List.mem_of_getElem? hm
    have hfind := (List.mem_filter.mp (List.mem_of_getElem? hd)).1
    have hdsource := h.source_eq hplaces hd hm hf
    obtain ⟨m₀, hmem₀, hm₀, f₀, hf₀, hsource₀⟩ := h.exists_matcherOf? hmem hf
    have hloop := h.unlooped m hmem f (by simp [hf])
    have hloop₀ := h.unlooped m₀ hmem₀ f₀ (by simp [hf₀])
    refine ⟨hdsource, ?_⟩
    rw [← hsource₀] at hdsource hm₀
    rw [trial?_eq_first hdocument hsample h hfind htarget hdsource hm₀]
    refine congrArg (trialOf · sample) ?_
    refine (Matcher.asWritten_eq_iff hf₀ hf hloop₀ hloop hsource₀).mpr fun hwell => ?_
    exact hagree m₀ hmem₀ m hmem f₀ (by simp [hf₀]) f (by simp [hf]) hsource₀ hwell

/-! ## Two matchers with one source -/

/-- Two patterns with one source, of which the second has a field of its own. -/
def sharing (digit : Char) : List Char :=
  "[\x7b\"pattern\": \x7b\n\"regexp\": \"a\"\n\x7d\x7d,\n\x7b\"pattern\": \x7b\n\"regexp\": \"a\",\n\"line\": ".toList ++
    [digit, '\x7d', '\x7d', ']']

/-- The text from a place on. -/
def sharingFrom (digit : Char) (n : Nat) : List Char :=
  (sharing digit).drop n

def sharingOutline (digit : Char) (line : Int) : Outline :=
  .arr [
    .obj [(sharingFrom digit 2, "pattern",
      .obj [(sharingFrom digit 15, "regexp", .leaf (.str "a") trivial)])],
    .obj [(sharingFrom digit 34, "pattern",
      .obj [(sharingFrom digit 47, "regexp", .leaf (.str "a") trivial),
        (sharingFrom digit 62, "line", .leaf (.int line) trivial)])]]

def silentPattern : Members := [("pattern", .obj [("regexp", .str "a")])]

def linePattern (line : Int) : Members :=
  [("pattern", .obj [("regexp", .str "a"), ("line", .int line)])]

section

variable {text : String} {digit : Char} {line : Int}

theorem outlines_sharing (htext : text.toList = sharing digit)
    (hname : readName (sharingFrom digit 62) = .ok ("line", sharingFrom digit 70))
    (hline : readScalar (sharingFrom digit 70) = .ok (.int line, sharingFrom digit 71)) :
    Outlines text (sharingOutline digit line) := by
  have hfirst : Reads (.members [(sharingFrom digit 15, "regexp", .leaf (.str "a") trivial)])
      (sharingFrom digit 15) (sharingFrom digit 30) :=
    @Reads.lastMember _ (sharingFrom digit 25) (sharingFrom digit 28) _ "regexp" _ rfl
      (.leaf rfl _) rfl
  have hlast : Reads (.members [(sharingFrom digit 62, "line", .leaf (.int line) trivial)])
      (sharingFrom digit 62) (sharingFrom digit 72) :=
    .lastMember hname (.leaf hline _) rfl
  have hsecond : Reads (.members [(sharingFrom digit 47, "regexp", .leaf (.str "a") trivial),
      (sharingFrom digit 62, "line", .leaf (.int line) trivial)])
      (sharingFrom digit 47) (sharingFrom digit 72) :=
    @Reads.nextMember _ (sharingFrom digit 57) (sharingFrom digit 60) (sharingFrom digit 61) _
      "regexp" _ _ rfl (.leaf rfl _) rfl hlast
  have hitem := @Reads.lastMember (sharingFrom digit 2) (sharingFrom digit 13) (sharingFrom digit 30)
    (sharingFrom digit 31) "pattern" _ rfl (.object (s := sharingFrom digit 14) hfirst) rfl
  have hitem' := @Reads.lastMember (sharingFrom digit 34) (sharingFrom digit 45)
    (sharingFrom digit 72) (sharingFrom digit 73) "pattern" _ rfl
    (.object (s := sharingFrom digit 46) hsecond) rfl
  have hitems := @Reads.nextItem (sharingFrom digit 1) (sharingFrom digit 31) (sharingFrom digit 32)
    (sharingFrom digit 74) _ _ (.object (s := sharingFrom digit 2) hitem) rfl
    (@Reads.lastItem _ (sharingFrom digit 73) _ _ (.object (s := sharingFrom digit 34) hitem') rfl)
  have hskip : skipSpace text.toList = '[' :: sharingFrom digit 1 := by
    rw [htext]
    rfl
  have hhead : (sharing digit).head? = some '[' := rfl
  refine ⟨by rw [htext, hhead]; decide, sharingFrom digit 74, ?_, rfl⟩
  rw [hskip]
  exact .array (s := sharingFrom digit 1) hitems

theorem hasOwnLine_sharing (htext : text.toList = sharing digit) (n : Nat) (behind : List Char)
    (hearlier : ((sharing digit).take n).getLast? = some '\n')
    (hplace : sharingFrom digit n = "\"regexp\": \"a\"".toList ++ behind)
    (hbehind : frontLine isLineBreak behind = [] ∨ frontLine isLineBreak behind = [',']) :
    HasOwnLine text (sharingFrom digit n) := by
  have hmember : ∀ c ∈ "\"regexp\": \"a\"".toList, ¬isLineBreak c = true := by
    simp [isLineBreak]
  refine ⟨⟨(sharing digit).take n, [], ?_, ?_, by simp [IsGap], ?_⟩,
    "regexp", '"' :: 'a' :: '"' :: behind, .str "a", "\"regexp\": \"a\"".toList, behind, ?_, ?_,
    hplace, hmember, ?_⟩
  · rw [htext]
    exact (List.take_append_drop n _).symm
  · rw [hearlier]
    rintro c ⟨⟩
    rfl
  · rw [hplace, frontLine_append hmember]
    obtain h | h := hbehind <;> simp [h, maxLineLength]
  · rw [hplace]
    rfl
  · rfl
  · obtain h | h := hbehind <;> simp [h]

theorem exists_single (members : Members) (index : Nat)
    (hok : (Matcher.ofMembers index members).isOk = true) (hsource : members.HasSource "a")
    (hloops : ¬members.Loops) : ∃ m f c, Matcher.ofMembers index members = .ok m ∧
      m.fragments = [f] ∧ f.source = "a" ∧ f.loop = false ∧ m.chained = false ∧
      m.compile = .ok c ∧ ∀ field, c.offsets.get? field = members.singleIndex? field := by
  obtain ⟨stripped, hstripped⟩ : ∃ stripped, Regex.compile (Matcher.stripAnchors "a") = .ok stripped :=
    ⟨_, rfl⟩
  obtain ⟨m, hm⟩ := exists_of_isOk hok
  obtain ⟨f, hf⟩ := (Matcher.ofMembers_eq_ok.mp hm).2.isSingle hsource
  obtain ⟨c, hc, hoffsets⟩ := Members.compile_of_unlooped hm hsource hloops hstripped
  have hloop : f.loop = false := by
    rw [← Bool.not_eq_true, hf.loop]
    exact hloops
  exact ⟨m, f, c, hm, hf.fragments, hf.source_eq, hloop, hf.chained, hc, hoffsets⟩

/-- The two matchers have the same offsets if and only if the second pattern gives the usual group. -/
theorem exists_listsSingles_sharing (htext : text.toList = sharing digit)
    (hparse : Json.parse text = .ok (.arr [.obj silentPattern, .obj (linePattern line)]))
    (hname : readName (sharingFrom digit 62) = .ok ("line", sharingFrom digit 70))
    (hline : readScalar (sharingFrom digit 70) = .ok (.int line, sharingFrom digit 71)) :
    ∃ m f m' f', ListsSingles text (sharingOutline digit line) [m, m'] ∧ m.fragments = [f] ∧
      m'.fragments = [f'] ∧ f.source = "a" ∧ f'.source = "a" ∧ m.chained = false ∧
      (m.SameOffsets m' ↔ line = 1) := by
  have hloops : ∀ {members p : Members}, members.get? "pattern" = some (.obj p) →
      p.get? "loop" = none → ¬members.Loops := by
    rintro members p hp hsilent ⟨p', hp', hon⟩
    cases hp.symm.trans hp'
    rw [hsilent] at hon
    cases hon
  obtain ⟨m, f, c, hm, hf, hsource, hloop, hchained, hc, hoffsets⟩ :=
    exists_single silentPattern 0 (by cbv) (.object rfl rfl) (hloops rfl rfl)
  obtain ⟨m', f', c', hm', hf', hsource', hloop', -, hc', hoffsets'⟩ :=
    exists_single (linePattern line) 1 (by cbv) (.object rfl rfl) (hloops rfl rfl)
  refine ⟨m, f, m', f', ⟨hparse, outlines_sharing htext hname hline, ?accepted, ?ownLine, ?unlooped⟩,
    hf, hf', hsource, hsource', hchained, ?same⟩
  case accepted =>
    have hvalue : (sharingOutline digit line).value =
        .arr [.obj silentPattern, .obj (linePattern line)] := rfl
    have hm₁ : Matcher.ofMembers (0 + 1) (linePattern line) = .ok m' := hm'
    rw [hvalue]
    show Matcher.ofValuesFrom 0 [.obj silentPattern, .obj (linePattern line)] = .ok [m, m']
    refine bind_eq_ok.mpr ⟨m, hm, bind_eq_ok.mpr ⟨[m'], ?_, rfl⟩⟩
    exact bind_eq_ok.mpr ⟨m', hm₁, rfl⟩
  case ownLine =>
    have hfirst : HasOwnLine text (sharingFrom digit 15) :=
      hasOwnLine_sharing htext 15 (sharingFrom digit 28) rfl rfl (.inl rfl)
    have hsecond : HasOwnLine text (sharingFrom digit 47) :=
      hasOwnLine_sharing htext 47 (sharingFrom digit 60) rfl rfl (.inr rfl)
    rintro v (_ | ⟨_, _ | ⟨_, ⟨⟩⟩⟩)
    · exact ⟨_, _, rfl, hfirst⟩
    · exact ⟨_, _, rfl, hsecond⟩
  case unlooped =>
    simp [hf, hf', hloop, hloop']
  case same =>
    unfold Matcher.SameOffsets
    rw [hc, hc']
    constructor
    · intro heq
      have hfield : c.offsets.get? .line = c'.offsets.get? .line :=
        congrArg (FieldTable.get? · .line) (Except.ok.inj heq)
      have hown : (linePattern line).singleIndex? .line = (some line).filter (0 ≤ ·) := rfl
      rw [hoffsets, hoffsets', hown] at hfield
      exact Option.some.inj (Option.filter_eq_some_iff.mp hfield.symm).1
    · rintro rfl
      refine congrArg Except.ok (funext fun field => ?_)
      refine (hoffsets field).trans (Eq.trans ?_ (hoffsets' field).symm)
      cases field <;> rfl

end

/-- The field that the second pattern gives is the usual one. -/
def usualLine : String :=
  "[\x7b\"pattern\": \x7b\n\"regexp\": \"a\"\n\x7d\x7d,\n\x7b\"pattern\": \x7b\n\"regexp\": \"a\",\n\"line\": 1\x7d\x7d]"

/-- The field that the second pattern gives is another one. -/
def otherLine : String :=
  "[\x7b\"pattern\": \x7b\n\"regexp\": \"a\"\n\x7d\x7d,\n\x7b\"pattern\": \x7b\n\"regexp\": \"a\",\n\"line\": 2\x7d\x7d]"

def sharingSession (text : String) : Session where
  settings := { sample := some ⟨"", ["s"]⟩ }
  documents := [("d", { text, language := none })]

theorem tries_own_fields_usualLine :
    ∃ o ms, (sharingSession usualLine).document "d" = .ok ⟨usualLine, none⟩ ∧
      ListsSingles usualLine o ms ∧ IsNumbered usualLine o ∧ (patterns usualLine).length = 2 ∧
      (sharingSession usualLine).TriesOwn "d" ⟨"", ["s"]⟩ (patterns usualLine) ms := by
  have hparse : Json.parse usualLine = .ok (.arr [.obj silentPattern, .obj (linePattern 1)]) := by cbv
  have hplaces : (patterns usualLine).map (place usualLine) =
      [sharingFrom '1' 15, sharingFrom '1' 47] := by decide +kernel
  obtain ⟨m, f, m', f', hlists, -, -, -, -, -, hsame⟩ :=
    @exists_listsSingles_sharing _ '1' _ (by decide +kernel) hparse rfl rfl
  obtain ⟨-, hnumbered, hown⟩ := @tries_own_fields (sharingSession usualLine) "d"
    ⟨usualLine, none⟩ _ _ ⟨"", ["s"]⟩ rfl rfl hlists
  have hnumbered := hnumbered.mpr hplaces
  obtain ⟨hlength, hiff⟩ := hown hnumbered
  have hsame : m.SameOffsets m' := hsame.mpr rfl
  have hagree : AgreeOnFields [m, m'] := by
    rintro _ (_ | ⟨_, _ | ⟨_, ⟨⟩⟩⟩) _ (_ | ⟨_, _ | ⟨_, ⟨⟩⟩⟩) _ _ _ _ _ _
    · rfl
    · exact hsame
    · exact hsame.symm
    · rfl
  exact ⟨_, _, rfl, hlists, hnumbered, hlength, hiff.mpr hagree⟩

/-- Two declarations, of which the second is tried with the offsets of the first matcher. -/
theorem not_tries_own_otherLine :
    ∃ o ms, (sharingSession otherLine).document "d" = .ok ⟨otherLine, none⟩ ∧
      ListsSingles otherLine o ms ∧ IsNumbered otherLine o ∧
      ¬(sharingSession otherLine).TriesOwn "d" ⟨"", ["s"]⟩ (patterns otherLine) ms := by
  have hparse : Json.parse otherLine = .ok (.arr [.obj silentPattern, .obj (linePattern 2)]) := by cbv
  have hplaces : (patterns otherLine).map (place otherLine) =
      [sharingFrom '2' 15, sharingFrom '2' 47] := by decide +kernel
  obtain ⟨m, f, m', f', hlists, hf, hf', hsource, hsource', hchained, hsame⟩ :=
    @exists_listsSingles_sharing _ '2' _ (by decide +kernel) hparse rfl rfl
  refine ⟨_, _, rfl, hlists, (isNumbered_iff hlists.outlines).mpr hplaces, fun hown => ?_⟩
  have hfirst : matcherOf? f.source [m, m'] = some m :=
    List.find?_cons_of_pos (by simp [hchained, hf])
  have heq := @TriesOwn.asWritten_eq_first _ _ ⟨otherLine, none⟩ _ _ _ hown rfl rfl hlists hplaces
    _ _ _ _ (List.mem_cons_of_mem m List.mem_cons_self) hf' hfirst (hsource.trans hsource'.symm)
  have hloop := hlists.unlooped m List.mem_cons_self f (by simp [hf])
  have hloop' := hlists.unlooped m' (by simp) f' (by simp [hf'])
  have hoffsets := (Matcher.asWritten_eq_iff hf hf' hloop hloop' (hsource.trans hsource'.symm)).mp
    heq.symm ⟨_, by rw [hsource]; rfl⟩
  exact absurd (hsame.mp hoffsets) (by decide)

end Session

end ProblemMatcher
