import ProblemMatcher.Proofs.Json.Members

/-!
# Lists under the name `pattern`

The members of a document that have the name `pattern` and a list as their value, in the order of
the text, each told by the text from its name on. Such a text begins with a mark: the name in
quotes, a colon and, perhaps behind whitespace, a bracket. And a mark that no backslash stands in
front of is always that of such a member: outside of literals a quote opens a name or a value, and
behind a literal that is a value there is no colon.

1. `Outline.patternLists_eq`, `Outlines.descend`: the lists are members, one behind the other.
2. `Reads.mem_patternLists`: a mark is that of a list.
3. `Outlines.mem_patternLists`: the same for whole documents.
-/

namespace ProblemMatcher.Json

open ProblemMatcher.Text

namespace Outline

def isList : Outline → Bool
  | arr _ => true
  | _ => false

mutual

/-- The lists under the name `pattern`, by the text from the name on. -/
def patternLists : Outline → List (List Char)
  | leaf _ _ => []
  | arr items => patternListsOf items
  | obj members => patternListsIn members

def patternListsOf : List Outline → List (List Char)
  | [] => []
  | o :: rest => o.patternLists ++ patternListsOf rest

def patternListsIn : Members → List (List Char)
  | [] => []
  | (place, name, o) :: rest =>
    (if name = "pattern" ∧ o.isList then [place] else []) ++ o.patternLists ++ patternListsIn rest

end

/-- Where a member stands, if it is a list under the name `pattern`. -/
def listPlace? : List Char × String × Outline → Option (List Char)
  | (place, name, o) => if name = "pattern" ∧ o.isList then some place else none

mutual

/-- The lists are those of all members that are lists under the name. -/
theorem patternLists_eq : ∀ o : Outline, o.patternLists = o.allMembers.filterMap listPlace?
  | leaf _ _ => rfl
  | arr items => patternListsOf_eq items
  | obj members => patternListsIn_eq members

theorem patternListsOf_eq : ∀ items : List Outline,
    patternListsOf items = (allMembersOf items).filterMap listPlace?
  | [] => rfl
  | o :: rest => by
    rw [patternListsOf, allMembersOf, patternLists_eq o, patternListsOf_eq rest,
      List.filterMap_append]

theorem patternListsIn_eq : ∀ members : Members,
    patternListsIn members = (allMembersIn members).filterMap listPlace?
  | [] => rfl
  | (place, name, o) :: rest => by
    rw [patternListsIn, allMembersIn, patternLists_eq o, patternListsIn_eq rest]
    by_cases h : name = "pattern" ∧ o.isList <;> simp [listPlace?, h]

end

/-- A list stands where its member does. -/
theorem fst_eq_of_listPlace? {member : List Char × String × Outline} {place : List Char}
    (h : listPlace? member = some place) : member.1 = place := by
  obtain ⟨place', name, o⟩ := member
  rw [listPlace?, Option.ite_none_right_eq_some] at h
  exact Option.some.inj h.2

end Outline

def Part.patternLists : Part → List (List Char)
  | .value o => o.patternLists
  | .items os => Outline.patternListsOf os
  | .members ms => Outline.patternListsIn ms

theorem mem_patternListsIn_cons {place q : List Char} {name : String} {o : Outline}
    {rest : Outline.Members} : q ∈ Outline.patternListsIn ((place, name, o) :: rest) ↔
      (q = place ∧ name = "pattern" ∧ o.isList = true) ∨ q ∈ o.patternLists ∨
        q ∈ Outline.patternListsIn rest := by
  simp only [Outline.patternListsIn, List.mem_append, or_assoc]
  split_ifs with h <;> simp [h]

/-! ## Marks -/

/-- A text begins with the name `pattern` and, behind its colon, a bracket. -/
def IsMark (q : List Char) : Prop :=
  ∃ gap rest, q = "\"pattern\":".toList ++ (gap ++ '[' :: rest) ∧ ∀ c ∈ gap, isBlank c = true

/-- A text stands in another one with no backslash in front. -/
def Unescaped (s q : List Char) : Prop :=
  ∃ before, s = before ++ q ∧ before.getLast? ≠ some '\\'

/-- What may follow a value. -/
def Closes (rest : List Char) : Prop :=
  ∀ c ∈ (skipSpace rest).head?, c = ',' ∨ c = ']' ∨ c = '\x7d'

theorem IsMark.exists_quoted {q : List Char} (h : IsMark q) :
    ∃ t gap rest, q = '"' :: 'p' :: t ∧ (∀ c ∈ gap, isBlank c = true) ∧
      Spells ('p' :: t) "pattern".toList (':' :: (gap ++ '[' :: rest)) := by
  obtain ⟨gap, rest, rfl, hgap⟩ := h
  refine ⟨_, gap, rest, rfl, hgap, ?_⟩
  repeat refine .plain (by decide) (by decide) (by decide) ?_
  exact .close

theorem getLast?_ne_of_append {read before : List Char} (h : (read ++ before).getLast? ≠ some '\\') :
    before.getLast? ≠ some '\\' := by
  intro hlast
  simp [List.getLast?_append, hlast] at h

theorem Unescaped.of_suffix {s t q : List Char} (h : Unescaped s q) (ht : t <:+ s)
    (hlength : q.length ≤ t.length) : Unescaped t q := by
  obtain ⟨before, heq, hlast⟩ := h
  obtain ⟨read, rfl⟩ := ht
  obtain ⟨before', rfl, rfl⟩ | ⟨quoted, rfl, rfl⟩ := List.append_eq_append_iff.mp heq
  · exact ⟨before', rfl, getLast?_ne_of_append hlast⟩
  · obtain rfl : quoted = [] := by
      simp at hlength
      exact hlength
    exact ⟨[], rfl, by simp⟩

theorem Unescaped.behind {s t after : List Char} (h : Unescaped s ('"' :: after))
    (hpass : Passes s t) : Unescaped t ('"' :: after) := by
  obtain ⟨before, heq, hlast⟩ := h
  obtain ⟨read, before', rfl, rfl⟩ := hpass.exists_before heq
  exact ⟨before', rfl, getLast?_ne_of_append hlast⟩

theorem Unescaped.length_le {s q : List Char} (h : Unescaped s q) : q.length ≤ s.length := by
  obtain ⟨before, rfl, -⟩ := h
  simp

/-- A quote that no backslash stands in front of opens a literal, closes it, or is behind it. -/
theorem Spells.quote_cases {t cs rest after : List Char} (h : Spells t cs rest)
    (hq : Unescaped ('"' :: t) ('"' :: after)) :
    after = t ∨ after = rest ∨ Unescaped rest ('"' :: after) := by
  obtain ⟨body, hbody⟩ := h.exists_body
  obtain ⟨before, heq, hlast⟩ := id hq
  obtain _ | ⟨x, before⟩ := before
  · exact .inl (List.cons.inj heq).2.symm
  · simp only [List.cons_append, List.cons.injEq] at heq
    obtain ⟨rfl, heq⟩ := heq
    -- the quote stands inside the literal, at its end or behind it
    obtain hlt | hlt | hlt := Nat.lt_trichotomy rest.length after.length
    · have := h.quote_escaped heq hlt
      simp [List.getLast?_cons, this] at hlast
    · have := List.append_inj' (hbody.symm.trans heq) (by simp [hlt])
      exact .inr (.inl (List.cons.inj this.2).2.symm)
    · refine .inr (.inr (hq.of_suffix ⟨'"' :: body ++ ['"'], by simp [hbody]⟩ ?_))
      simpa using hlt

/-- A mark is behind a value that holds no others. -/
theorem not_mark_in_scalar {s rest q : List Char} {v : Value} (h : readScalar s = .ok (v, rest))
    (hrest : Closes rest) (hmark : IsMark q) (hq : Unescaped s q) : q.length ≤ rest.length := by
  obtain ⟨t', gap, behind, rfl, -, hspells'⟩ := hmark.exists_quoted
  by_cases hs : s.head? = some '"'
  · obtain ⟨t, rfl⟩ := List.head?_eq_some_iff.mp hs
    obtain ⟨cs, hspells, -⟩ := readScalar_quote_eq_ok.mp h
    obtain rfl | rfl | hbehind := hspells.quote_cases hq
    · -- as a value it would have a colon behind it
      obtain ⟨-, rfl⟩ := hspells.unique hspells'
      have := hrest ':' (by simp [skipSpace, isSpace])
      simp at this
    · -- as the end of a value it would have the name behind it
      have := hrest 'p' (by simp [skipSpace, isSpace])
      simp at this
    · exact hbehind.length_le
  · exact (hq.behind (passes_of_readScalar hs h)).length_le

/-- A mark in front of which a name begins is that name, or it is behind the colon. -/
theorem mark_of_readName {s start q : List Char} {name : String}
    (h : readName s = .ok (name, start)) (hmark : IsMark q) (hq : Unescaped s q) :
    Unescaped start q ∨ q = s ∧ name = "pattern" ∧
      ∃ gap rest, start = skipSpace (gap ++ '[' :: rest) ∧ ∀ c ∈ gap, isBlank c = true := by
  obtain ⟨t', gap, behind', rfl, hgap, hspells'⟩ := hmark.exists_quoted
  obtain ⟨t, cs, behind, colon, rfl, hspells, hcolon, rfl, rfl⟩ := readName_eq_ok.mp h
  obtain rfl | rfl | hbehind := hspells.quote_cases hq
  · obtain ⟨rfl, rfl⟩ := hspells.unique hspells'
    have heq : gap ++ '[' :: behind' = colon := by simpa [skipSpace, isSpace] using hcolon
    exact .inr ⟨rfl, rfl, gap, behind', by rw [heq], hgap⟩
  · simp [skipSpace, isSpace] at hcolon
  · have hpass : Passes behind (skipSpace colon) :=
      (hcolon ▸ Passes.skipSpace behind).trans (.cons (by decide) (.skipSpace colon))
    exact .inl (hbehind.behind hpass)

/-- Behind whitespace comes what is there, unless some of the whitespace is not that of JSON. -/
theorem skipSpace_eq_or_isBlank {gap rest : List Char} {a : Char}
    (hgap : ∀ c ∈ gap, isBlank c = true) (ha : ¬isSpace a = true) :
    skipSpace (gap ++ a :: rest) = a :: rest ∨
      ∃ c t, skipSpace (gap ++ a :: rest) = c :: t ∧ isBlank c = true := by
  induction gap with
  | nil =>
    left
    simp [skipSpace, ha]
  | cons b gap ih =>
    rw [List.forall_mem_cons] at hgap
    by_cases hb : isSpace b = true
    · simpa only [skipSpace, List.cons_append, List.dropWhile_cons, hb, if_true] using ih hgap.2
    · right
      refine ⟨b, gap ++ a :: rest, ?_, hgap.1⟩
      simp [skipSpace, hb]

/-- Behind whitespace, a bracket opens a list; other whitespace than that of JSON opens nothing. -/
theorem head_skipSpace {gap rest t : List Char} {c : Char} (hgap : ∀ c ∈ gap, isBlank c = true)
    (h : skipSpace (gap ++ '[' :: rest) = c :: t) : c = '[' ∨ isBlank c = true := by
  obtain heq | ⟨c', t', heq, hblank⟩ := @skipSpace_eq_or_isBlank gap rest '[' hgap (by decide)
  · cases heq.symm.trans h
    exact .inl rfl
  · cases heq.symm.trans h
    exact .inr hblank

theorem isList_of_reads {gap rest mid : List Char} {o : Outline}
    (hgap : ∀ c ∈ gap, isBlank c = true)
    (h : Reads (.value o) (skipSpace (gap ++ '[' :: rest)) mid) : o.isList = true := by
  generalize hs : skipSpace (gap ++ '[' :: rest) = s at h
  cases h with
  | leaf h =>
    obtain ⟨c, t, rfl, hc⟩ := startsScalar_of_readScalar h
    obtain rfl | hblank := head_skipSpace hgap hs
    · simp [startsScalar] at hc
    · exact absurd hc (not_startsScalar_of_isBlank hblank)
  | noItems | array => rfl
  | noMembers | object =>
    obtain h | h := head_skipSpace hgap hs
    · simp at h
    · simp [isBlank, isAsciiBlank] at h

theorem Unescaped.passes {s t q : List Char} (h : Unescaped s q) (hmark : IsMark q)
    (hpass : Passes s t) : Unescaped t q := by
  obtain ⟨t', _, _, rfl, -⟩ := hmark.exists_quoted
  exact h.behind hpass

theorem passes_of_skipSpace_eq {s rest : List Char} {c : Char} (hc : c ≠ '"')
    (h : skipSpace s = c :: rest) : Passes s rest :=
  (h ▸ Passes.skipSpace s).trans (.cons hc (.refl rest))

theorem closes_of_skipSpace_eq {s rest : List Char} {c : Char} (h : skipSpace s = c :: rest)
    (hc : c = ',' ∨ c = ']' ∨ c = '\x7d') : Closes s := by
  intro d hd
  rw [h] at hd
  cases hd
  exact hc

/-- A mark from a value on is in the value or behind it. -/
theorem mark_of_value {s mid q : List Char} {o : Outline} (h : Reads (.value o) s mid)
    (hq : Unescaped s q) (ih : mid.length < q.length → q ∈ o.patternLists) :
    q ∈ o.patternLists ∨ Unescaped mid q := by
  obtain hlt | hge := Nat.lt_or_ge mid.length q.length
  · exact .inl (ih hlt)
  · exact .inr (hq.of_suffix h.extent.1 hge)

theorem mark_of_member {s start mid q : List Char} {name : String} {o : Outline}
    (hname : readName s = .ok (name, start)) (h : Reads (.value o) start mid) (hmark : IsMark q)
    (hq : Unescaped s q)
    (ih : Unescaped start q → mid.length < q.length → q ∈ o.patternLists) :
    (q = s ∧ name = "pattern" ∧ o.isList = true) ∨ q ∈ o.patternLists ∨ Unescaped mid q := by
  obtain hstart | ⟨rfl, rfl, gap, behind, rfl, hgap⟩ := mark_of_readName hname hmark hq
  · exact .inr (mark_of_value h hstart (ih hstart))
  · exact .inl ⟨rfl, rfl, isList_of_reads hgap h⟩

/-- What separates and closes has no quote, so no mark is there. -/
theorem Unescaped.not_passes {s rest q : List Char} (h : Unescaped s q) (hmark : IsMark q)
    (hlt : rest.length < q.length) : ¬Passes s rest := by
  intro hpass
  have := (h.passes hmark hpass).length_le
  omega

/-- A mark that was read, with no backslash in front, is that of a list. -/
theorem Reads.mem_patternLists {p : Part} {s rest q : List Char} (h : Reads p s rest)
    (hclose : ∀ o, p = .value o → Closes rest) (hmark : IsMark q) (hq : Unescaped s q)
    (hlt : rest.length < q.length) : q ∈ p.patternLists := by
  induction h with
  | leaf h =>
    -- a value without members holds no mark
    have := not_mark_in_scalar h (hclose _ rfl) hmark hq
    omega
  | noItems h | noMembers h =>
    refine absurd (.cons ?_ (passes_of_skipSpace_eq ?_ h)) (hq.not_passes hmark hlt) <;> decide
  | @array s _ _ _ ih | @object s _ _ _ ih =>
    exact ih nofun (hq.passes hmark (.cons (by decide) (.skipSpace s))) hlt
  | lastItem h hmid ih =>
    have hclose := closes_of_skipSpace_eq hmid (by simp)
    obtain hmem | hmem := mark_of_value h hq (ih (fun _ _ => hclose) hq)
    · exact List.mem_append_left _ hmem
    · exact absurd (passes_of_skipSpace_eq (by decide) hmid) (hmem.not_passes hmark hlt)
  | @nextItem s mid next rest o os h hmid hnext ih ihnext =>
    have hclose := closes_of_skipSpace_eq hmid (by simp)
    obtain hmem | hmem := mark_of_value h hq (ih (fun _ _ => hclose) hq)
    · exact List.mem_append_left _ hmem
    · have hpass := (passes_of_skipSpace_eq (by decide) hmid).trans (.skipSpace next)
      exact List.mem_append_right _ (ihnext nofun (hmem.passes hmark hpass) hlt)
  | lastMember hname h hmid ih =>
    have hclose := closes_of_skipSpace_eq hmid (by simp)
    refine mem_patternListsIn_cons.mpr ?_
    obtain hown | hmem | hmem := mark_of_member hname h hmark hq (ih fun _ _ => hclose)
    · exact .inl hown
    · exact .inr (.inl hmem)
    · exact absurd (passes_of_skipSpace_eq (by decide) hmid) (hmem.not_passes hmark hlt)
  | @nextMember s start mid next rest name o ms hname h hmid hnext ih ihnext =>
    have hclose := closes_of_skipSpace_eq hmid (by simp)
    refine mem_patternListsIn_cons.mpr ?_
    obtain hown | hmem | hmem := mark_of_member hname h hmark hq (ih fun _ _ => hclose)
    · exact .inl hown
    · exact .inr (.inl hmem)
    · have hpass := (passes_of_skipSpace_eq (by decide) hmid).trans (.skipSpace next)
      exact .inr (.inr (ihnext nofun (hmem.passes hmark hpass) hlt))

/-- In a document a mark with no backslash in front is that of a list. -/
theorem Outlines.mem_patternLists {text : String} {o : Outline} {q : List Char}
    (h : Outlines text o) (hmark : IsMark q) (hq : Unescaped text.toList q) :
    q ∈ o.patternLists := by
  obtain ⟨-, rest, hreads, hrest⟩ := h
  have hclose : Closes rest := by simp [Closes, hrest]
  have hq := hq.passes hmark (.skipSpace _)
  refine hreads.mem_patternLists (fun _ _ => hclose) hmark hq ?_
  -- behind the document there is whitespace only
  by_contra hge
  have hbehind := (hq.of_suffix hreads.extent.1 (Nat.le_of_not_lt hge)).passes hmark (.skipSpace rest)
  rw [hrest] at hbehind
  obtain ⟨t, _, _, rfl, -⟩ := hmark.exists_quoted
  simpa using hbehind.length_le

theorem Outlines.descend {text : String} {o : Outline} (h : Outlines text o) :
    Descend o.patternLists := by
  rw [Outline.patternLists_eq]
  refine (List.pairwise_map.mp h.descend_allMembers).filterMap _ fun m m' hlt q hq q' hq' => ?_
  rwa [← Outline.fst_eq_of_listPlace? hq, ← Outline.fst_eq_of_listPlace? hq']

end ProblemMatcher.Json
