import ProblemMatcher.Proofs.Declaration.Chains
import ProblemMatcher.Proofs.Matcher.SourcePlaces

/-!
# Patterns found and patterns declared

The single patterns of a document are found line by line, too: a line that is a `regexp` and a
literal, perhaps with a comma, is taken for one. Nothing is read to find them, so a line may be
taken for a pattern that no matcher has, and the member of a matcher may be written in a way that is
not looked for. Where a member that has its line to itself is found, its source is found with it.

1. `mem_map_place_patterns`: a pattern is found where a line has this form.
2. `isNumbered_iff`: when the n-th pattern found is the n-th declared.
3. `unescape_of_hasOwnLine`: the source found is the one declared.
-/

namespace ProblemMatcher.Declaration

open Json Text

/-! ## Lines that declare a pattern -/

theorem literalBody?_eq_some {s body : List Char} (h : literalBody? s = some body) :
    body ≠ [] ∧ ∃ comma : Bool, s = body ++ '"' :: (if comma then [','] else []) := by
  unfold literalBody? at h
  split at h
  · next reversed hs =>
    rw [Option.ite_none_left_eq_some, Option.some.injEq] at h
    obtain ⟨hne, rfl⟩ := h
    exact ⟨by simpa using hne, false, by simpa using congrArg List.reverse hs⟩
  · next reversed hs =>
    rw [Option.ite_none_left_eq_some, Option.some.injEq] at h
    obtain ⟨hne, rfl⟩ := h
    exact ⟨by simpa using hne, true, by simpa using congrArg List.reverse hs⟩
  · cases h

theorem patternBody?_eq_some {line body : List Char} :
    patternBody? line = some body ↔ body ≠ [] ∧ ∃ indent gap comma,
      line = patternLine indent gap body comma ∧ (∀ c ∈ indent, isBlank c = true) ∧
        ∀ c ∈ gap, isBlank c = true := by
  constructor
  · intro h
    simp only [patternBody?, Option.bind_eq_bind, Option.bind_eq_some_iff, skip?_eq_some] at h
    obtain ⟨behind, hname, literal, hquote, hliteral⟩ := h
    obtain ⟨hbody, comma, rfl⟩ := literalBody?_eq_some hliteral
    obtain ⟨indent, hline, hindent⟩ := exists_blanks line
    obtain ⟨gap, hgap, hblanks⟩ := exists_blanks behind
    refine ⟨hbody, indent, gap, comma, ?_, hindent, hblanks⟩
    rw [hline, hname, hgap, hquote]
    rfl
  · rintro ⟨hbody, indent, gap, comma, rfl, hindent, hgap⟩
    exact patternBody?_patternLine hindent hgap hbody comma

theorem takeWhile_isBlank_patternLine {indent : List Char} (h : ∀ c ∈ indent, isBlank c = true)
    (gap body : List Char) (comma : Bool) :
    (patternLine indent gap body comma).takeWhile isBlank = indent := by
  unfold patternLine
  rw [List.takeWhile_append_of_pos h]
  simp
  decide

theorem inLine?_eq_of_patternBody? {tail body : List Char}
    (h : patternBody? (lookedAt tail) = some body) (number : Nat) :
    inLine? number (frontLine isLineBreak tail) = some {
      line := number
      column := ((lookedAt tail).takeWhile isBlank).length
      endColumn := (lookedAt tail).length
      source := some (unescape body) } := by
  unfold lookedAt at h ⊢
  simp only [inLine?, h]

/-- The declaration of a pattern in a line of a text. -/
theorem exists_patternBody? {number : Nat} {tail : List Char} {d : Declaration}
    (h : inLine? number (frontLine isLineBreak tail) = some d) (hpattern : d.isChain = false) :
    ∃ body, patternBody? (lookedAt tail) = some body := by
  cases hbody : patternBody? (lookedAt tail) with
  | some body => exact ⟨body, rfl⟩
  | none =>
    unfold lookedAt at hbody
    simp only [inLine?, hbody] at h
    obtain ⟨rest, -, rfl⟩ := Option.map_eq_some_iff.mp h
    cases hpattern

/-! ## Patterns by their places -/

/-- The declarations of single patterns. -/
def patterns (text : String) : List Declaration :=
  (find text).filter (!·.isChain)

/-- Here a text has a line that is taken for the declaration of a pattern with this body. -/
def DeclaresAt (text : String) (q body : List Char) : Prop :=
  ∃ earlier indent gap comma, text.toList = earlier ++ (indent ++ q) ∧
    (∀ c ∈ earlier.getLast?, isLineBreak c = true) ∧
    lookedAt (indent ++ q) = patternLine indent gap body comma ∧
    (∀ c ∈ indent, isBlank c = true) ∧ (∀ c ∈ gap, isBlank c = true) ∧ body ≠ []

theorem patternLine_ne_nil (indent gap body : List Char) (comma : Bool) :
    patternLine indent gap body comma ≠ [] := by
  simp [patternLine]

/-- A pattern is found where a line declares it, with the source that its body stands for. -/
theorem exists_declaresAt {text : String} {d : Declaration} (h : d ∈ patterns text) :
    ∃ body, DeclaresAt text (place text d) body ∧ d.source = some (unescape body) := by
  obtain ⟨hd, hpattern⟩ := List.mem_filter.mp h
  obtain ⟨tail, htail, hin⟩ := mem_find.mp hd
  obtain ⟨body, hbody⟩ := exists_patternBody? hin (by simpa using hpattern)
  obtain ⟨hne, indent, gap, comma, hline, hindent, hgap⟩ := patternBody?_eq_some.mp hbody
  have hfront : lookedAt tail ≠ [] := by
    rw [hline]
    exact patternLine_ne_nil _ _ _ _
  obtain ⟨earlier, htext, hearlier⟩ := (mem_lineTails hfront).mp (List.mem_of_getElem? htail)
  have hd := Option.some.inj (hin.symm.trans (inLine?_eq_of_patternBody? hbody _))
  have hcolumn : d.column = indent.length := by
    rw [hd, hline, takeWhile_isBlank_patternLine hindent]
  obtain ⟨more, hmore⟩ := lookedAt_isPrefix tail
  have hplace : tail = indent ++ place text d := by
    rw [place, htail, Option.getD_some, hcolumn, ← hmore, hline, patternLine, List.append_assoc,
      List.drop_left]
  rw [hplace] at htext hline
  exact ⟨body, ⟨earlier, indent, gap, comma, htext, hearlier, hline, hindent, hgap, hne⟩,
    congrArg Declaration.source hd⟩

theorem mem_map_place_patterns {text : String} {q : List Char} :
    q ∈ (patterns text).map (place text) ↔ ∃ body, DeclaresAt text q body := by
  constructor
  · intro hq
    obtain ⟨d, hd, rfl⟩ := List.mem_map.mp hq
    obtain ⟨body, hbody, -⟩ := exists_declaresAt hd
    exact ⟨body, hbody⟩
  · rintro ⟨body, earlier, indent, gap, comma, htext, hearlier, hline, hindent, hgap, hne⟩
    have hbody := patternBody?_eq_some.mpr ⟨hne, indent, gap, comma, hline, hindent, hgap⟩
    have hfront : lookedAt (indent ++ q) ≠ [] := by
      rw [hline]
      exact patternLine_ne_nil _ _ _ _
    obtain ⟨i, hi⟩ := List.mem_iff_getElem?.mp ((mem_lineTails hfront).mpr ⟨earlier, htext, hearlier⟩)
    have hin := inLine?_eq_of_patternBody? hbody i
    rw [hline, takeWhile_isBlank_patternLine hindent] at hin
    refine List.mem_map.mpr ⟨⟨i, indent.length, _, some (unescape body)⟩,
      List.mem_filter.mpr ⟨mem_find.mpr ⟨_, hi, hin⟩, rfl⟩, ?_⟩
    rw [place, hi, Option.getD_some, List.drop_left]

/-! ## Numbering -/

/-- The lines taken for declarations of patterns are those of the matchers. -/
def IsNumbered (text : String) (o : Outline) : Prop :=
  ∀ q, (∃ body, DeclaresAt text q body) ↔ q ∈ o.sourcePlaces

/-- The n-th pattern found is the n-th declared. -/
theorem isNumbered_iff {text : String} {o : Outline} (h : Outlines text o) :
    IsNumbered text o ↔ (patterns text).map (place text) = o.sourcePlaces := by
  have hfound : Descend ((patterns text).map (place text)) :=
    (descend_find text).sublist (List.filter_sublist.map (place text))
  unfold IsNumbered
  simp only [← mem_map_place_patterns]
  exact ⟨eq_of_descend hfound h.descend_sourcePlaces, fun heq q => by rw [heq]⟩

/-! ## Members with a line to themselves -/

/-- A member has a line to itself, all of which is looked at: in front of it there is only
whitespace, and behind it, up to the end of the line, only whitespace and commas. -/
structure HasOwnLine (text : String) (q : List Char) : Prop where
  front : ∃ earlier indent, text.toList = earlier ++ (indent ++ q) ∧
    (∀ c ∈ earlier.getLast?, isLineBreak c = true) ∧ IsGap indent ∧
    indent.length + (frontLine isLineBreak q).length ≤ maxLineLength
  behind : ∃ name start v member behind, readName q = .ok (name, start) ∧
    readScalar start = .ok (v, behind) ∧ q = member ++ behind ∧
    (∀ c ∈ member, ¬isLineBreak c = true) ∧
    ∀ c ∈ frontLine isLineBreak behind, isBlank c = true ∨ c = ','

theorem eq_nil_of_getLast? {before s : List Char}
    (h : ∀ c ∈ (before ++ s).getLast?, isLineBreak c = true)
    (hs : ∀ c ∈ s, ¬isLineBreak c = true) : s = [] := by
  cases hlast : s.getLast? with
  | none => exact List.getLast?_eq_none_iff.mp hlast
  | some c =>
    exact absurd (h c (by simp [List.getLast?_append, hlast])) (hs c (List.mem_of_getLast? hlast))

/-- A line begins at one place. -/
theorem indent_unique {earlier earlier' indent indent' q : List Char}
    (h : earlier ++ (indent ++ q) = earlier' ++ (indent' ++ q))
    (hearlier : ∀ c ∈ earlier.getLast?, isLineBreak c = true)
    (hearlier' : ∀ c ∈ earlier'.getLast?, isLineBreak c = true)
    (hindent : ∀ c ∈ indent, ¬isLineBreak c = true)
    (hindent' : ∀ c ∈ indent', ¬isLineBreak c = true) : indent = indent' := by
  rw [← List.append_assoc, ← List.append_assoc] at h
  -- one indent would reach over the line break that the other one begins behind
  obtain ⟨a, rfl, rfl⟩ | ⟨a, rfl, rfl⟩ :=
    List.append_eq_append_iff.mp (List.append_cancel_right h)
  · rw [eq_nil_of_getLast? hearlier' fun c hc => hindent c (List.mem_append_left _ hc),
      List.nil_append]
  · rw [eq_nil_of_getLast? hearlier fun c hc => hindent' c (List.mem_append_left _ hc),
      List.nil_append]

/-- The last quote of a text stands at one place. -/
theorem body_unique {body inner trail trail' : List Char}
    (h : body ++ '"' :: trail = inner ++ '"' :: trail') (htrail : '"' ∉ trail)
    (htrail' : '"' ∉ trail') : body = inner := by
  obtain ⟨a, rfl, heq⟩ | ⟨a, rfl, heq⟩ := List.append_eq_append_iff.mp h
  all_goals
    cases a with
    | nil => simp
    | cons c a =>
      obtain ⟨-, rfl⟩ := List.cons.inj heq
      simp at htrail htrail'

theorem frontLine_of_declaresAt {text : String} {q body : List Char} (hown : HasOwnLine text q)
    (hbody : DeclaresAt text q body) : ∃ (gap : List Char) (comma : Bool), frontLine isLineBreak q =
      "\"regexp\":".toList ++ (gap ++ '"' :: (body ++ '"' :: (if comma then [','] else []))) ∧
        ∀ c ∈ gap, isBlank c = true := by
  obtain ⟨earlier', indent', htext', hearlier', hindent', hlength⟩ := hown.front
  obtain ⟨earlier, indent, gap, comma, htext, hearlier, hline, -, hgap, -⟩ := hbody
  have hbreak : ∀ c ∈ indent, ¬isLineBreak c = true := by
    intro c hc
    have hmem : c ∈ lookedAt (indent ++ q) := by simp [hline, patternLine, hc]
    exact not_isLineBreak_of_mem_lookedAt hmem
  obtain rfl := indent_unique (htext'.symm.trans htext) hearlier' hearlier
    (fun c hc => (hindent' c hc).2) hbreak
  refine ⟨gap, comma, ?_, hgap⟩
  rw [lookedAt, frontLine_append hbreak, List.take_of_length_le (by simpa using hlength)] at hline
  exact List.append_cancel_left hline

/-- A literal behind the name `regexp` is read from its opening quote on. -/
theorem exists_literal_of_regexp {name source : String} {gap s start behind : List Char}
    (hgap : ∀ c ∈ gap, isBlank c = true)
    (hname : readName ("\"regexp\":".toList ++ (gap ++ '"' :: s)) = .ok (name, start))
    (hscalar : readScalar start = .ok (.str source, behind)) :
    ∃ inner, s = inner ++ '"' :: behind ∧
      Json.parseChars ('"' :: inner ++ ['"']) = .ok (.str source) := by
  have hspells : Spells "regexp\":".toList "regexp".toList [':'] := by
    repeat refine .plain (by decide) (by decide) (by decide) ?_
    exact .close
  obtain ⟨t, cs, behind', colon, heq, hspells', hcolon, -, rfl⟩ := readName_eq_ok.mp hname
  obtain rfl : "regexp\":".toList ++ (gap ++ '"' :: s) = t := (List.cons.inj heq).2
  obtain ⟨-, rfl⟩ := hspells'.unique (hspells.append _)
  obtain rfl : gap ++ '"' :: s = colon := by simpa [skipSpace, isSpace] using hcolon
  -- the gap may hold blanks that JSON does not skip, but then no scalar is read behind it
  obtain hstart | ⟨c, t, hstart, hblank⟩ :=
    @skipSpace_eq_or_isBlank gap s '"' hgap (by decide)
  · rw [hstart] at hscalar
    obtain ⟨cs, hliteral, hsource⟩ := readScalar_quote_eq_ok.mp hscalar
    obtain ⟨inner, hinner, hspelt⟩ := hliteral.exists_literal
    exact ⟨inner, hinner, parseChars_quote_eq_ok.mpr ⟨cs, [], hspelt, rfl, hsource⟩⟩
  · obtain ⟨c', t', heq, hstarts⟩ := startsScalar_of_readScalar hscalar
    cases hstart.symm.trans heq
    exact absurd hstarts (not_startsScalar_of_isBlank hblank)

/-- Where a member has its line to itself and the line declares a pattern, the source found is the
value of the member. -/
theorem unescape_of_hasOwnLine {text name source : String} {q body start behind : List Char}
    (hown : HasOwnLine text q) (hbody : DeclaresAt text q body)
    (hname : readName q = .ok (name, start))
    (hscalar : readScalar start = .ok (.str source, behind)) : unescape body = source := by
  obtain ⟨_, _, _, member, _, hname', hscalar', rfl, hmember, htrail⟩ := hown.behind
  cases hname'.symm.trans hname
  cases hscalar'.symm.trans hscalar
  obtain ⟨gap, comma, hline, hgap⟩ := frontLine_of_declaresAt hown hbody
  rw [frontLine_append hmember] at hline
  obtain ⟨rest, hrest⟩ : ∃ rest, frontLine isLineBreak behind ++ rest = behind :=
    List.takeWhile_prefix _
  have hq : member ++ behind = "\"regexp\":".toList ++ (gap ++ '"' :: (body ++ '"' ::
      ((if comma then [','] else []) ++ rest))) := by
    calc member ++ behind = member ++ frontLine isLineBreak behind ++ rest := by
          rw [List.append_assoc, hrest]
      _ = _ := by
          rw [hline]
          simp
  rw [hq] at hname
  obtain ⟨inner, hinner, hliteral⟩ := exists_literal_of_regexp hgap hname hscalar
  have hends : body ++ '"' :: (if comma then [','] else []) =
      inner ++ '"' :: frontLine isLineBreak behind := by
    rw [← hrest] at hinner
    refine (List.append_left_inj rest).mp ?_
    simpa using hinner
  -- behind the member there is no quote, so its closing one is the last of the line
  have hquote : '"' ∉ frontLine isLineBreak behind := fun hmem => by
    have := htrail _ hmem
    simp [isBlank, isAsciiBlank] at this
  obtain rfl := body_unique hends (by cases comma <;> simp) hquote
  simp only [unescape, hliteral]

end ProblemMatcher.Declaration
