import ProblemMatcher.Proofs.Declaration.Literal
import ProblemMatcher.Proofs.Matcher.ChainPlaces

/-!
# Chains found and chains declared

The chains of a document are found line by line: a line that begins, behind whitespace, with a
`pattern` and the bracket of its list is taken for one. The chains that a document declares are
found by reading it. The n-th chain found is the n-th chain declared if and only if the document is
laid out for it: of all its lists under the name `pattern`, those that open a line are the chains.

1. `mem_find`, `descend_find`: the declarations are those of the lines, one behind the other.
2. `filter_isChain_inLine?`, `map_place_inLines`: the chains found, by their places in the text.
3. `chainIn?_eq_some`, `mem_chainsFound`: a chain is found where a list opens a line.
4. `chainsFound_subset`: every chain found is a list under the name `pattern`.
5. `chains_line_up`: when the chains found are the chains declared.
-/

namespace ProblemMatcher.Declaration

open Json Text

/-! ## Chains of a line -/

theorem skip?_eq_some {expected s rest : List Char} :
    skip? expected s = some rest ↔ s = expected ++ rest := by
  constructor
  · intro h
    unfold skip? at h
    split_ifs at h with hprefix
    obtain ⟨rest', rfl⟩ := List.isPrefixOf_iff_prefix.mp hprefix
    simpa using h
  · rintro rfl
    exact skip?_append expected rest

/-- Whitespace, the name `pattern`, and a bracket behind its colon. -/
def chainLine (indent gap rest : List Char) : List Char :=
  indent ++ ("\"pattern\":".toList ++ (gap ++ '[' :: rest))

theorem length_chainLine (indent gap rest : List Char) :
    (chainLine indent gap rest).length = indent.length + gap.length + rest.length + 11 := by
  simp [chainLine]
  omega

theorem dropBlanks_chainLine {indent : List Char} (h : ∀ c ∈ indent, isBlank c = true)
    (gap rest : List Char) :
    dropBlanks (chainLine indent gap rest) = "\"pattern\":".toList ++ (gap ++ '[' :: rest) :=
  dropBlanks_append h (by simp; decide)

theorem takeWhile_isBlank_chainLine {indent : List Char} (h : ∀ c ∈ indent, isBlank c = true)
    (gap rest : List Char) : (chainLine indent gap rest).takeWhile isBlank = indent := by
  unfold chainLine
  rw [List.takeWhile_append_of_pos h]
  simp
  decide

theorem exists_blanks (s : List Char) :
    ∃ blanks, s = blanks ++ dropBlanks s ∧ ∀ c ∈ blanks, isBlank c = true :=
  ⟨s.takeWhile isBlank, List.takeWhile_append_dropWhile.symm, fun _ => List.mem_takeWhile_imp⟩

theorem chainRest?_eq_some {line rest : List Char} :
    chainRest? line = some rest ↔ ∃ indent gap, line = chainLine indent gap rest ∧
      (∀ c ∈ indent, isBlank c = true) ∧ ∀ c ∈ gap, isBlank c = true := by
  simp only [chainRest?, Option.bind_eq_bind, Option.bind_eq_some_iff, skip?_eq_some]
  constructor
  · rintro ⟨behind, hname, hbracket⟩
    obtain ⟨indent, hline, hindent⟩ := exists_blanks line
    obtain ⟨gap, hgap, hblanks⟩ := exists_blanks behind
    refine ⟨indent, gap, ?_, hindent, hblanks⟩
    rw [hline, hname, hgap, hbracket]
    rfl
  · rintro ⟨indent, gap, rfl, hindent, hgap⟩
    refine ⟨gap ++ '[' :: rest, dropBlanks_chainLine hindent gap rest, ?_⟩
    exact dropBlanks_append hgap (by simp; decide)

theorem patternBody?_chainLine {indent gap rest : List Char}
    (h : ∀ c ∈ indent, isBlank c = true) : patternBody? (chainLine indent gap rest) = none := by
  have hname : skip? "\"regexp\":".toList ("\"pattern\":".toList ++ (gap ++ '[' :: rest)) = none := by
    simp [skip?]
  simp only [patternBody?, dropBlanks_chainLine h, hname, Option.bind_eq_bind, Option.bind_none]

/-! ## Declarations by their places -/

/-- The text from a declaration on. -/
def place (text : String) (d : Declaration) : List Char :=
  ((lineTails isLineBreak text.toList)[d.line]?.getD []).drop d.column

/-- A declaration is that of the line with its number. -/
theorem mem_find {text : String} {d : Declaration} :
    d ∈ find text ↔ ∃ tail, (lineTails isLineBreak text.toList)[d.line]? = some tail ∧
      inLine? d.line (frontLine isLineBreak tail) = some d := by
  have hown : d ∈ find text ↔ d ∈ (find text).filter (·.line = d.line) := by simp
  have hfilter := filter_line_inLines 0 d.line (splitLines isLineBreak text.toList)
  rw [Nat.zero_add, splitLines_eq_map_lineTails rfl, List.getElem?_map] at hfilter
  rw [hown, find, splitLines_eq_map_lineTails rfl, hfilter]
  cases (lineTails isLineBreak text.toList)[d.line]? <;> simp

theorem pairwise_line_inLines (number : Nat) (lines : List (List Char)) :
    (inLines number lines).Pairwise (·.line < ·.line) := by
  induction lines generalizing number with
  | nil => exact .nil
  | cons line rest ih =>
    refine List.pairwise_append.mpr ⟨by cases inLine? number line <;> simp, ih _, fun d hd d' hd' => ?_⟩
    rw [line_of_inLine? (Option.mem_toList.mp hd)]
    exact le_line_of_mem_inLines hd'

theorem column_le_of_inLine? {number : Nat} {line : List Char} {d : Declaration}
    (h : inLine? number line = some d) : d.column ≤ line.length := by
  have hcolumn : d.column = ((line.take maxLineLength).takeWhile isBlank).length := by
    simp only [inLine?] at h
    split at h
    · cases h
      rfl
    · obtain ⟨rest, -, rfl⟩ := Option.map_eq_some_iff.mp h
      rfl
  rw [hcolumn]
  exact (List.takeWhile_prefix _).length_le.trans (List.take_prefix _ _).length_le

/-- The declarations of a text stand one behind the other. -/
theorem descend_find (text : String) : Descend ((find text).map (place text)) := by
  refine List.pairwise_map.mpr ((pairwise_line_inLines 0 _).imp_of_mem fun {d d'} hd hd' hlt => ?_)
  obtain ⟨tail, htail, hin⟩ := mem_find.mp hd
  obtain ⟨tail', htail', -⟩ := mem_find.mp hd'
  obtain ⟨i, hi⟩ := List.getElem?_eq_some_iff.mp htail
  obtain ⟨i', hi'⟩ := List.getElem?_eq_some_iff.mp htail'
  have hbehind := List.pairwise_iff_getElem.mp (pairwise_lineTails text.toList) _ _ i i' hlt
  have hcolumn := column_le_of_inLine? hin
  simp only [place, htail, htail', Option.getD_some, List.length_drop]
  rw [hi, hi'] at hbehind
  omega

/-! ## Chains by their places -/

/-- Of the first line of a text, what is looked at. -/
def lookedAt (tail : List Char) : List Char :=
  (frontLine isLineBreak tail).take maxLineLength

/-- The text from the chain on that the first line of a text opens. -/
def chainIn? (tail : List Char) : Option (List Char) :=
  (chainRest? (lookedAt tail)).map fun _ => tail.drop ((lookedAt tail).takeWhile isBlank).length

theorem filter_isChain_inLine? (number : Nat) (line : List Char) :
    (inLine? number line).toList.filter isChain =
      ((chainRest? (line.take maxLineLength)).map fun rest => {
        line := number
        column := ((line.take maxLineLength).takeWhile isBlank).length
        endColumn := (line.take maxLineLength).length - rest.length
        source := none : Declaration }).toList := by
  unfold inLine?
  generalize line.take maxLineLength = line
  dsimp only
  cases hrest : chainRest? line with
  | none => cases hbody : patternBody? line <;> simp [isChain]
  | some rest =>
    obtain ⟨indent, gap, rfl, hindent, -⟩ := chainRest?_eq_some.mp hrest
    simp [patternBody?_chainLine hindent, isChain]

/-- The chains found in the lines from one on, by their places. -/
theorem map_place_inLines {tails rest : List (List Char)} {n : Nat} (h : tails.drop n = rest) :
    ((inLines n (rest.map (frontLine isLineBreak))).filter isChain).map
        (fun d => (tails[d.line]?.getD []).drop d.column) = rest.filterMap chainIn? := by
  induction rest generalizing n with
  | nil => rfl
  | cons tail rest ih =>
    have htail : tails[n]? = some tail := by
      have := congrArg List.head? h
      simpa [List.head?_drop] using this
    have hrest : tails.drop (n + 1) = rest := by
      rw [← List.tail_drop, h]
      rfl
    have hcons : (tail :: rest).filterMap chainIn? =
        (chainIn? tail).toList ++ rest.filterMap chainIn? := by
      cases hchain : chainIn? tail <;> simp [hchain]
    rw [List.map_cons, inLines, List.filter_append, List.map_append, ih hrest, hcons,
      filter_isChain_inLine?]
    congr 1
    unfold chainIn? lookedAt
    cases chainRest? ((frontLine isLineBreak tail).take maxLineLength) <;> simp [htail]

/-- Whitespace that is all on one line. -/
def IsGap (s : List Char) : Prop :=
  ∀ c ∈ s, isBlank c = true ∧ ¬isLineBreak c = true

/-- A list under the name `pattern` opens a line: behind whitespace the line begins with the name,
the bracket is on it too, and all this is no longer than what is looked at. -/
def OpensLine (text : String) (q : List Char) : Prop :=
  ∃ earlier indent gap rest, text.toList = earlier ++ (indent ++ q) ∧
    q = "\"pattern\":".toList ++ (gap ++ '[' :: rest) ∧
    (∀ c ∈ earlier.getLast?, isLineBreak c = true) ∧ IsGap indent ∧ IsGap gap ∧
    indent.length + gap.length + 11 ≤ maxLineLength

theorem lookedAt_isPrefix (tail : List Char) : lookedAt tail <+: tail :=
  (List.take_prefix _ _).trans (List.takeWhile_prefix _)

theorem not_isLineBreak_of_mem_lookedAt {tail : List Char} {c : Char} (h : c ∈ lookedAt tail) :
    ¬isLineBreak c = true := by
  have := List.mem_takeWhile_imp (List.mem_of_mem_take h)
  simpa using this

/-- A line without breaks at the front of a text is looked at, if it is not too long. -/
theorem lookedAt_append {line : List Char} (h : ∀ c ∈ line, ¬isLineBreak c = true)
    (hlength : line.length ≤ maxLineLength) (rest : List Char) :
    lookedAt (line ++ rest) =
      line ++ (frontLine isLineBreak rest).take (maxLineLength - line.length) := by
  rw [lookedAt, frontLine_append h, List.take_append, List.take_of_length_le hlength]

/-- A line that is not empty starts at the front of the text or behind a break. -/
theorem mem_lineTails {text tail : List Char} (h : lookedAt tail ≠ []) :
    tail ∈ lineTails isLineBreak text ↔
      ∃ earlier, text = earlier ++ tail ∧ ∀ c ∈ earlier.getLast?, isLineBreak c = true := by
  obtain ⟨c, t, rfl⟩ := List.exists_cons_of_ne_nil (show tail ≠ [] by rintro rfl; exact h rfl)
  have hc : c ≠ '\n' := by
    rintro rfl
    exact h rfl
  rw [cons_mem_lineTails]
  constructor
  · rintro ⟨earlier, htext, hstart⟩
    exact ⟨earlier, htext, isBreak_of_startsLine hstart⟩
  · rintro ⟨earlier, htext, hearlier⟩
    exact ⟨earlier, htext, startsLine_of_ne_lineFeed hc hearlier⟩

theorem chainIn?_eq_some {tail q : List Char} :
    chainIn? tail = some q ↔ ∃ indent gap rest, tail = indent ++ q ∧
      q = "\"pattern\":".toList ++ (gap ++ '[' :: rest) ∧ IsGap indent ∧ IsGap gap ∧
      indent.length + gap.length + 11 ≤ maxLineLength := by
  constructor
  · intro h
    obtain ⟨rest, hchain, rfl⟩ := Option.map_eq_some_iff.mp h
    obtain ⟨indent, gap, hline, hindent, hgap⟩ := chainRest?_eq_some.mp hchain
    obtain ⟨more, hmore⟩ := lookedAt_isPrefix tail
    have hbreak : ∀ c ∈ chainLine indent gap rest, ¬isLineBreak c = true :=
      fun c hc => not_isLineBreak_of_mem_lookedAt (hline ▸ hc)
    have hlength : (chainLine indent gap rest).length ≤ maxLineLength := by
      rw [← hline]
      exact List.length_take_le _ _
    have htail : tail = indent ++ ("\"pattern\":".toList ++ (gap ++ '[' :: (rest ++ more))) := by
      rw [← hmore, hline, chainLine]
      simp
    rw [hline, takeWhile_isBlank_chainLine hindent]
    rw [length_chainLine] at hlength
    refine ⟨indent, gap, rest ++ more, ?_, ?_, ?_, ?_, by omega⟩
    · rw [htail, List.drop_left]
    · rw [htail, List.drop_left]
    · exact fun c hc => ⟨hindent c hc, hbreak c (by simp [chainLine, hc])⟩
    · exact fun c hc => ⟨hgap c hc, hbreak c (by simp [chainLine, hc])⟩
  · rintro ⟨indent, gap, rest, rfl, rfl, hindent, hgap, hlength⟩
    have hbreak : ∀ c ∈ chainLine indent gap [], ¬isLineBreak c = true := by
      intro c hc
      simp only [chainLine, List.mem_append, List.mem_singleton] at hc
      obtain hc | hc | hc | rfl := hc
      · exact (hindent c hc).2
      · revert c
        simp [isLineBreak]
      · exact (hgap c hc).2
      · decide
    have hlooked := lookedAt_append hbreak (by rw [length_chainLine]; simpa using hlength) rest
    have hmore : ∀ more, chainLine indent gap [] ++ more = chainLine indent gap more := by
      simp [chainLine]
    rw [hmore, hmore] at hlooked
    have hblank : ∀ c ∈ indent, isBlank c = true := fun c hc => (hindent c hc).1
    have hrest := chainRest?_eq_some.mpr ⟨indent, gap, hlooked, hblank, fun c hc => (hgap c hc).1⟩
    show chainIn? (chainLine indent gap rest) = _
    unfold chainIn?
    rw [hrest, hlooked, takeWhile_isBlank_chainLine hblank, Option.map_some, chainLine,
      List.drop_left]

/-! ## Chains of a text -/

/-- The chains found in a text, by their places. -/
def chainsFound (text : String) : List (List Char) :=
  ((find text).filter isChain).map (place text)

theorem chainsFound_eq (text : String) :
    chainsFound text = (lineTails isLineBreak text.toList).filterMap chainIn? := by
  unfold chainsFound find
  rw [splitLines_eq_map_lineTails rfl]
  exact map_place_inLines rfl

theorem lookedAt_ne_nil_of_chainIn? {tail q : List Char} (h : chainIn? tail = some q) :
    lookedAt tail ≠ [] := by
  intro hnil
  rw [chainIn?, hnil] at h
  cases h

/-- A chain is found where a list opens a line. -/
theorem mem_chainsFound {text : String} {q : List Char} :
    q ∈ chainsFound text ↔ OpensLine text q := by
  rw [chainsFound_eq, List.mem_filterMap]
  constructor
  · rintro ⟨tail, hmem, hchain⟩
    obtain ⟨earlier, htext, hearlier⟩ :=
      (mem_lineTails (lookedAt_ne_nil_of_chainIn? hchain)).mp hmem
    obtain ⟨indent, gap, rest, rfl, rfl, hgaps⟩ := chainIn?_eq_some.mp hchain
    exact ⟨earlier, indent, gap, rest, htext, rfl, hearlier, hgaps⟩
  · rintro ⟨earlier, indent, gap, rest, htext, rfl, hearlier, hindent, hgap, hlength⟩
    have hchain := chainIn?_eq_some.mpr ⟨indent, gap, rest, rfl, rfl, hindent, hgap, hlength⟩
    have hmem := (mem_lineTails (lookedAt_ne_nil_of_chainIn? hchain)).mpr ⟨earlier, htext, hearlier⟩
    exact ⟨_, hmem, hchain⟩

theorem descend_chainsFound (text : String) : Descend (chainsFound text) :=
  (descend_find text).sublist (List.filter_sublist.map (place text))

/-- Every chain found is a list under the name `pattern`. -/
theorem chainsFound_subset {text : String} {o : Outline} (h : Outlines text o) {q : List Char}
    (hq : q ∈ chainsFound text) : q ∈ o.patternLists := by
  obtain ⟨earlier, indent, gap, rest, htext, rfl, hearlier, hindent, hgap, -⟩ := mem_chainsFound.mp hq
  refine h.mem_patternLists ⟨gap, rest, rfl, fun c hc => (hgap c hc).1⟩
    ⟨earlier ++ indent, by rw [htext, List.append_assoc], fun hlast => ?_⟩
  -- in front of the name is whitespace, a line break or nothing, but no backslash
  rw [List.getLast?_append, Option.or_eq_some_iff] at hlast
  obtain hlast | ⟨-, hlast⟩ := hlast
  · have := (hindent _ (List.mem_of_getLast? hlast)).1
    simp [isBlank, isAsciiBlank] at this
  · have := hearlier _ hlast
    simp [isLineBreak] at this

/-! ## Layouts -/

/-- Of the lists under the name `pattern`, those that open a line are the chains. -/
def IsLaidOut (text : String) (o : Outline) : Prop :=
  ∀ q ∈ o.patternLists, OpensLine text q ↔ q ∈ o.chainPlaces

theorem isLaidOut_iff {text : String} {o : Outline} (h : Outlines text o) :
    IsLaidOut text o ↔ chainsFound text = o.chainPlaces := by
  constructor
  · intro hlaid
    refine eq_of_descend (descend_chainsFound text) (h.descend.sublist o.chainPlaces_sublist)
      fun q => ?_
    constructor
    · exact fun hq => (hlaid q (chainsFound_subset h hq)).mp (mem_chainsFound.mp hq)
    · exact fun hq => mem_chainsFound.mpr ((hlaid q (o.chainPlaces_sublist.subset hq)).mpr hq)
  · intro heq q _
    rw [← heq, mem_chainsFound]

/-- **Chains line up where the layout lets them.** A document that is read and whose matchers are
accepted has exactly one outline. By it the chains among the matchers have their places in the text,
in the same order. The chains found are at these places, the n-th at the n-th, if and only if those
of the lists under the name `pattern` that open a line are the chains; and then there are as many
chains found as chains among the matchers. -/
theorem chains_line_up {text : String} {doc : Value} {ms : List Matcher}
    (hparse : Json.parse text = .ok doc) (hms : Matcher.ofDocument doc = .ok ms) :
    ∃ o, (∀ o', Outlines text o' ↔ o' = o) ∧ o.value = doc ∧
      List.Forall₂ (Outline.ChainAt o.declared ms) o.chainPlaces (ms.filter (·.chained)) ∧
      (IsLaidOut text o ↔ ((find text).filter isChain).map (place text) = o.chainPlaces) ∧
      (IsLaidOut text o → ((find text).filter isChain).length = (ms.filter (·.chained)).length) := by
  obtain ⟨o, ho, rfl⟩ := exists_outlines hparse
  have hplaces := Outline.forall₂_chainPlaces hms
  refine ⟨o, fun o' => ⟨fun ho' => ho'.unique ho, fun heq => heq ▸ ho⟩, rfl, hplaces,
    isLaidOut_iff ho, fun hlaid => ?_⟩
  calc ((find text).filter isChain).length = (chainsFound text).length := by simp [chainsFound]
    _ = o.chainPlaces.length := by rw [(isLaidOut_iff ho).mp hlaid]
    _ = (ms.filter (·.chained)).length := hplaces.length_eq

/-- A chain on a line of its own, and another list under its name that opens no line. -/
def laidOut : String :=
  "\x7b\"x\": \x7b\"pattern\": [\"z\"]\x7d,\n\"problemMatchers\": [\x7b\n\t\"pattern\": [\"a\"]\x7d]\x7d"

def laidOutFrom (n : Nat) : List Char :=
  laidOut.toList.drop n

theorem exists_outlines_laidOut :
    ∃ o, Outlines laidOut o ∧ o.patternLists = [laidOutFrom 7, laidOutFrom 49] ∧
      o.chainPlaces = [laidOutFrom 49] := by
  have hlist : ∀ {name item : String} {s start mid rest rest' : List Char},
      readName s = .ok (name, '[' :: start) →
      readScalar (skipSpace start) = .ok (.str item, mid) → skipSpace mid = ']' :: rest →
      skipSpace rest = '\x7d' :: rest' →
      Reads (.members [(s, name, .arr [.leaf (.str item) trivial])]) s rest' :=
    fun hname hitem hclose hend => .lastMember hname (.array (.lastItem (.leaf hitem _) hclose)) hend
  have hforeign := @hlist "pattern" "z" (laidOutFrom 7) _ _ _ _ rfl rfl rfl rfl
  have hchain := @hlist "pattern" "a" (laidOutFrom 49) _ _ _ _ rfl rfl rfl rfl
  have hitems := Reads.lastItem (.object (s := laidOutFrom 47) hchain) rfl
  have hlast := @Reads.lastMember (laidOutFrom 26) _ _ _ "problemMatchers" _ rfl (.array hitems) rfl
  have hmembers := @Reads.nextMember (laidOutFrom 1) _ _ _ _ "x" _ _ rfl
    (.object (s := laidOutFrom 7) hforeign) rfl hlast
  exact ⟨_, ⟨by simp [laidOut], _, .object hmembers, rfl⟩, rfl, rfl⟩

theorem chains_line_up_laidOut :
    ∃ o, Outlines laidOut o ∧ IsLaidOut laidOut o ∧ o.patternLists.length = 2 ∧
      ((find laidOut).filter isChain).map (place laidOut) = o.chainPlaces ∧
      ((find laidOut).filter isChain).length = 1 := by
  have hparse : Json.parse laidOut = .ok (.obj [("x", .obj [("pattern", .arr [.str "z"])]),
      ("problemMatchers", .arr [.obj [("pattern", .arr [.str "a"])]])]) := by cbv
  have hchains : (Matcher.ofDocument (.obj [("x", .obj [("pattern", .arr [.str "z"])]),
      ("problemMatchers", .arr [.obj [("pattern", .arr [.str "a"])]])])).map
        (fun ms => (ms.filter (·.chained)).length) = .ok 1 := by cbv
  obtain ⟨ms, hms, hlength⟩ := map_eq_ok.mp hchains
  obtain ⟨o, hunique, -, -, hiff, hcount⟩ := chains_line_up hparse hms
  obtain ⟨o', ho', hlists, hplaces⟩ := exists_outlines_laidOut
  obtain rfl := (hunique o').mp ho'
  have hfound : ((find laidOut).filter isChain).map (place laidOut) = [laidOutFrom 49] := by cbv
  have hlaid := hiff.mpr (hfound.trans hplaces.symm)
  exact ⟨o', ho', hlaid, by simp [hlists], hiff.mp hlaid, (hcount hlaid).trans hlength⟩

/-- A chain whose bracket is not on the line of its name. -/
def splitOpening : String :=
  "[\x7b\"pattern\":\n[\"a\"]\x7d]"

/-- A list that opens a line, in a member that is not read. -/
def foreignList : String :=
  "\x7b\"contributes\": \x7b\"problemMatchers\": []\x7d,\n\"pattern\": [\"a\"]\x7d"

/-- A chain that is declared is not found, and one is found that is not declared. -/
theorem chains_miscounted :
    (∃ doc ms, Json.parse splitOpening = .ok doc ∧ Matcher.ofDocument doc = .ok ms ∧
        ((find splitOpening).filter isChain).length = 0 ∧ (ms.filter (·.chained)).length = 1) ∧
      ∃ doc ms, Json.parse foreignList = .ok doc ∧ Matcher.ofDocument doc = .ok ms ∧
        ((find foreignList).filter isChain).length = 1 ∧ (ms.filter (·.chained)).length = 0 := by
  have hsplit : Json.parse splitOpening = .ok (.arr [.obj [("pattern", .arr [.str "a"])]]) := by cbv
  have hforeign : Json.parse foreignList = .ok (.obj [
      ("contributes", .obj [("problemMatchers", .arr [])]), ("pattern", .arr [.str "a"])]) := by cbv
  have hone : (Matcher.ofDocument (.arr [.obj [("pattern", .arr [.str "a"])]])).map
      (fun ms => (ms.filter (·.chained)).length) = .ok 1 := by cbv
  obtain ⟨ms, hms, hlength⟩ := map_eq_ok.mp hone
  exact ⟨⟨_, ms, hsplit, hms, by cbv, hlength⟩, _, [], hforeign, by cbv, by cbv, rfl⟩

end ProblemMatcher.Declaration
