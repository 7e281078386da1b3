import ProblemMatcher.Proofs.Json.Outline

/-!
# Members of a document

All members of a document, those inside other values too, in the order of the text. A member stands
where its text from the name on says: its name is read there, and its value behind the colon.

1. `Reads.reads_member`: a member is read where it stands.
2. `Reads.extent`, `Reads.descend`: the members are in what was read, one behind the other.
3. `Outline.cons_sublist_of_last?`: the last member of a name, and those in its value, are among all.
-/

namespace ProblemMatcher.Json

open scoped List

namespace Outline

mutual

/-- The members of a value, and those inside them. -/
def allMembers : Outline → Members
  | leaf _ _ => []
  | arr items => allMembersOf items
  | obj members => allMembersIn members

def allMembersOf : List Outline → Members
  | [] => []
  | o :: rest => o.allMembers ++ allMembersOf rest

def allMembersIn : Members → Members
  | [] => []
  | (place, name, o) :: rest => (place, name, o) :: (o.allMembers ++ allMembersIn rest)

end

theorem allMembersOf_eq_flatMap (items : List Outline) :
    allMembersOf items = items.flatMap allMembers := by
  induction items with
  | nil => rfl
  | cons o rest ih => rw [allMembersOf, ih, List.flatMap_cons]

theorem cons_sublist_of_last? {name : String} {members : Members} {place : List Char} {o : Outline}
    (h : last? name members = some (place, o)) :
    (place, name, o) :: o.allMembers <+ allMembersIn members := by
  induction members with
  | nil => cases h
  | cons member rest ih =>
    obtain ⟨place', other, o'⟩ := member
    rw [last?, Option.or_eq_some_iff] at h
    rw [allMembersIn]
    obtain h | ⟨-, h⟩ := h
    · exact (ih h).trans ((List.sublist_append_right _ _).trans (List.sublist_cons_self _ _))
    · split_ifs at h with hname
      cases h
      subst hname
      exact (List.sublist_append_left _ _).cons_cons _

theorem allMembers_sublist_of_last? {name : String} {members : Members} {o : Outline}
    (h : (last? name members).map Prod.snd = some o) : o.allMembers <+ allMembersIn members := by
  obtain ⟨⟨place, o'⟩, hlast, rfl⟩ := Option.map_eq_some_iff.mp h
  exact (List.sublist_cons_self _ _).trans (cons_sublist_of_last? hlast)

end Outline

def Part.allMembers : Part → Outline.Members
  | .value o => o.allMembers
  | .items os => Outline.allMembersOf os
  | .members ms => Outline.allMembersIn ms

/-- A member is read where it stands. -/
theorem Reads.reads_member {p : Part} {s rest : List Char} (h : Reads p s rest)
    {place : List Char} {name : String} {o : Outline} (hmem : (place, name, o) ∈ p.allMembers) :
    ∃ start behind, readName place = .ok (name, start) ∧ Reads (.value o) start behind := by
  induction h with
  | leaf | noItems | noMembers => cases hmem
  | array _ ih | object _ ih => exact ih hmem
  | lastItem _ _ ih => exact ih (by simpa [Part.allMembers, Outline.allMembersOf] using hmem)
  | nextItem _ _ _ ih ihnext => exact (List.mem_append.mp hmem).elim ih ihnext
  | lastMember hname h _ ih =>
    obtain hmem | hmem := List.mem_cons.mp hmem
    · cases hmem
      exact ⟨_, _, hname, h⟩
    · exact ih (by simpa [Part.allMembers, Outline.allMembersIn] using hmem)
  | nextMember hname h _ _ ih ihnext =>
    obtain hmem | hmem := List.mem_cons.mp hmem
    · cases hmem
      exact ⟨_, _, hname, h⟩
    · exact (List.mem_append.mp hmem).elim ih ihnext

/-! ## Where members stand -/

theorem isSuffix_skipSpace (s : List Char) : skipSpace s <:+ s :=
  List.dropWhile_suffix _

theorem suffix_cons_skipSpace (c : Char) (s : List Char) : skipSpace s <:+ c :: s :=
  (isSuffix_skipSpace s).trans (List.suffix_cons c s)

theorem suffix_of_skipSpace_eq {s rest : List Char} {c : Char} (h : skipSpace s = c :: rest) :
    rest <:+ s :=
  (h ▸ List.suffix_cons c rest).trans (isSuffix_skipSpace s)

theorem suffix_of_readScalar {s rest : List Char} {v : Value} (h : readScalar s = .ok (v, rest)) :
    rest <:+ s := by
  by_cases hs : s.head? = some '"'
  · obtain ⟨t, rfl⟩ := List.head?_eq_some_iff.mp hs
    obtain ⟨cs, hspells, -⟩ := readScalar_quote_eq_ok.mp h
    obtain ⟨body, rfl⟩ := hspells.exists_body
    exact ⟨'"' :: body ++ ['"'], by simp⟩
  · obtain ⟨read, rfl, -⟩ := passes_of_readScalar hs h
    exact List.suffix_append _ _

/-- A name has at least its opening quote in front of the value. -/
theorem suffix_of_readName {s start : List Char} {name : String}
    (h : readName s = .ok (name, start)) : start <:+ s ∧ start.length < s.length := by
  obtain ⟨t, cs, behind, colon, rfl, hspells, hcolon, -, rfl⟩ := readName_eq_ok.mp h
  obtain ⟨body, rfl⟩ := hspells.exists_body
  have hsuffix : skipSpace colon <:+ behind :=
    (isSuffix_skipSpace colon).trans (suffix_of_skipSpace_eq hcolon)
  refine ⟨hsuffix.trans ⟨'"' :: body ++ ['"'], by simp⟩, ?_⟩
  have := hsuffix.length_le
  simp
  omega

/-- A text starts in front of `rest` inside `s`. -/
structure Within (s rest q : List Char) : Prop where
  suffix : q <:+ s
  before : rest.length < q.length

theorem Within.mono {s s' rest rest' q : List Char} (h : Within s rest q) (hs : s <:+ s')
    (hrest : rest' <:+ rest) : Within s' rest' q :=
  ⟨h.suffix.trans hs, hrest.length_le.trans_lt h.before⟩

/-- The members that were read stand in front of the rest. -/
theorem Reads.extent {p : Part} {s rest : List Char} (h : Reads p s rest) :
    rest <:+ s ∧ ∀ member ∈ p.allMembers, Within s rest member.1 := by
  induction h with
  | leaf h => exact ⟨suffix_of_readScalar h, nofun⟩
  | noItems h | noMembers h =>
    exact ⟨(suffix_of_skipSpace_eq h).trans (List.suffix_cons _ _), nofun⟩
  | array _ ih | object _ ih =>
    exact ⟨ih.1.trans (suffix_cons_skipSpace _ _), fun member hmem =>
      (ih.2 member hmem).mono (suffix_cons_skipSpace _ _) (List.suffix_refl _)⟩
  | lastItem _ hmid ih =>
    have hrest := suffix_of_skipSpace_eq hmid
    refine ⟨hrest.trans ih.1, fun member hmem => ?_⟩
    exact (ih.2 member (by simpa [Part.allMembers, Outline.allMembersOf] using hmem)).mono
      (List.suffix_refl _) hrest
  | nextItem _ hmid _ ih ihnext =>
    have hnext := (isSuffix_skipSpace _).trans (suffix_of_skipSpace_eq hmid)
    refine ⟨(ihnext.1.trans hnext).trans ih.1, fun member hmem => ?_⟩
    obtain hmem | hmem := List.mem_append.mp hmem
    · exact (ih.2 member hmem).mono (List.suffix_refl _) (ihnext.1.trans hnext)
    · exact (ihnext.2 member hmem).mono (hnext.trans ih.1) (List.suffix_refl _)
  | lastMember hname _ hmid ih =>
    have hrest := suffix_of_skipSpace_eq hmid
    obtain ⟨hstart, hlt⟩ := suffix_of_readName hname
    refine ⟨(hrest.trans ih.1).trans hstart, fun member hmem => ?_⟩
    obtain rfl | hmem := List.mem_cons.mp hmem
    · exact ⟨List.suffix_refl _, (hrest.trans ih.1).length_le.trans_lt hlt⟩
    · exact (ih.2 member (by simpa [Part.allMembers, Outline.allMembersIn] using hmem)).mono
        hstart hrest
  -- the member itself, those in its value, and those behind it
  | nextMember hname _ hmid _ ih ihnext =>
    have hnext := (isSuffix_skipSpace _).trans (suffix_of_skipSpace_eq hmid)
    obtain ⟨hstart, hlt⟩ := suffix_of_readName hname
    have hrest := ihnext.1.trans hnext
    refine ⟨(hrest.trans ih.1).trans hstart, fun member hmem => ?_⟩
    obtain rfl | hmem := List.mem_cons.mp hmem
    · exact ⟨List.suffix_refl _, (hrest.trans ih.1).length_le.trans_lt hlt⟩
    · obtain hmem | hmem := List.mem_append.mp hmem
      · exact (ih.2 member hmem).mono hstart hrest
      · exact (ihnext.2 member hmem).mono ((hnext.trans ih.1).trans hstart) (List.suffix_refl _)

/-- Places one behind the other in a text. -/
abbrev Descend (places : List (List Char)) : Prop :=
  places.Pairwise fun q q' => q'.length < q.length

/-- Places are in one order only. -/
theorem eq_of_descend {places places' : List (List Char)} (h : Descend places)
    (h' : Descend places') (hmem : ∀ q, q ∈ places ↔ q ∈ places') : places = places' := by
  have hirrefl : Std.Irrefl fun q q' : List Char => q'.length < q.length :=
    ⟨fun _ => Nat.lt_irrefl _⟩
  have hantisymm : Std.Antisymm fun q q' : List Char => q'.length < q.length :=
    ⟨fun _ _ h h' => absurd h (Nat.lt_asymm h')⟩
  exact h.eq_of_mem_iff h' hmem

theorem descend_append {s mid rest : List Char} {front back : Outline.Members}
    (hfront : Descend (front.map Prod.fst)) (hback : Descend (back.map Prod.fst))
    (hf : ∀ member ∈ front, Within s mid member.1)
    (hb : ∀ member ∈ back, Within mid rest member.1) :
    Descend ((front ++ back).map Prod.fst) := by
  rw [List.map_append]
  refine List.pairwise_append.mpr ⟨hfront, hback, fun q hq q' hq' => ?_⟩
  obtain ⟨member, hmem, rfl⟩ := List.mem_map.mp hq
  obtain ⟨member', hmem', rfl⟩ := List.mem_map.mp hq'
  exact (hb member' hmem').suffix.length_le.trans_lt (hf member hmem).before

/-- A member stands in front of those in its value. -/
theorem descend_member {s start mid : List Char} {name : String} {o : Outline}
    (hname : readName s = .ok (name, start)) (h : Reads (.value o) start mid)
    (ho : Descend (o.allMembers.map Prod.fst)) :
    Descend (((s, name, o) :: o.allMembers).map Prod.fst) ∧
      ∀ member ∈ (s, name, o) :: o.allMembers, Within s mid member.1 := by
  obtain ⟨hstart, hlt⟩ := suffix_of_readName hname
  constructor
  · rw [List.map_cons]
    refine List.pairwise_cons.mpr ⟨fun q hq => ?_, ho⟩
    obtain ⟨member, hmem, rfl⟩ := List.mem_map.mp hq
    exact (h.extent.2 member hmem).suffix.length_le.trans_lt hlt
  · intro member hmem
    obtain rfl | hmem := List.mem_cons.mp hmem
    · exact ⟨List.suffix_refl _, h.extent.1.length_le.trans_lt hlt⟩
    · exact (h.extent.2 member hmem).mono hstart (List.suffix_refl _)

/-- The members that were read stand one behind the other. -/
theorem Reads.descend {p : Part} {s rest : List Char} (h : Reads p s rest) :
    Descend (p.allMembers.map Prod.fst) := by
  induction h with
  | leaf | noItems | noMembers => exact List.Pairwise.nil
  | array _ ih | object _ ih => exact ih
  | lastItem h hmid ih => simpa [Part.allMembers, Outline.allMembersOf] using ih
  | nextItem h hmid hnext ih ihnext =>
    have hback := (isSuffix_skipSpace _).trans (suffix_of_skipSpace_eq hmid)
    exact descend_append ih ihnext h.extent.2 fun member hmem =>
      (hnext.extent.2 member hmem).mono hback (List.suffix_refl _)
  | lastMember hname h hmid ih =>
    simpa [Part.allMembers, Outline.allMembersIn] using (descend_member hname h ih).1
  | nextMember hname h hmid hnext ih ihnext =>
    have hback := (isSuffix_skipSpace _).trans (suffix_of_skipSpace_eq hmid)
    obtain ⟨hfront, hwithin⟩ := descend_member hname h ih
    exact descend_append hfront ihnext hwithin fun member hmem =>
      (hnext.extent.2 member hmem).mono hback (List.suffix_refl _)

/-- The members of a document stand one behind the other. -/
theorem Outlines.descend_allMembers {text : String} {o : Outline} (h : Outlines text o) :
    Descend (o.allMembers.map Prod.fst) := by
  obtain ⟨-, rest, hreads, -⟩ := h
  exact hreads.descend

theorem Outlines.reads_member {text : String} {o : Outline} (h : Outlines text o)
    {place : List Char} {name : String} {member : Outline}
    (hmem : (place, name, member) ∈ o.allMembers) :
    ∃ start behind, readName place = .ok (name, start) ∧ Reads (.value member) start behind := by
  obtain ⟨-, rest, hreads, -⟩ := h
  exact hreads.reads_member hmem

end ProblemMatcher.Json
