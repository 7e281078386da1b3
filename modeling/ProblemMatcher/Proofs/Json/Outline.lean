import ProblemMatcher.Proofs.Json.Scalar

/-!
# Outlines

The value of a document does not tell where in the text its parts stand, nor which members gave way
to later ones of the same name. The outline of a document keeps both. `Outlines text o` says without
a reader that `o` is the outline of a text.

1. `Reads.unique`, `Outlines.unique`: a text has one outline at most.
2. `exists_outlines`: a document that is read has an outline with its value.
3. `lookup_membersFrom`: of members with one name, the value has the last.
-/

namespace ProblemMatcher.Json

/-- A value with all members of its objects, each with the text from its name on. -/
inductive Outline
  | leaf (v : Value) (h : v.IsScalar)
  | arr (items : List Outline)
  | obj (members : List (List Char × String × Outline))

namespace Outline

/-- Members as they stand in a text. -/
abbrev Members := List (List Char × String × Outline)

mutual

/-- The value of which an outline is one. -/
def value : Outline → Value
  | leaf v _ => v
  | arr items => .arr (valuesOf items)
  | obj members => .obj (membersFrom [] members)

def valuesOf : List Outline → List Value
  | [] => []
  | o :: rest => o.value :: valuesOf rest

/-- The members of a value, with those read before. -/
def membersFrom : List (String × Value) → Members → List (String × Value)
  | read, [] => read
  | read, (_, name, o) :: rest => membersFrom (Value.insert read name o.value) rest

end

/-- The last member of a name. -/
def last? (name : String) : Members → Option (List Char × Outline)
  | [] => none
  | (place, other, o) :: rest => (last? name rest).or (if other = name then some (place, o) else none)

theorem valuesOf_eq_map (items : List Outline) : valuesOf items = items.map value := by
  induction items with
  | nil => rfl
  | cons o rest ih => simp [valuesOf, ih]

theorem lookup_membersFrom (read : List (String × Value)) (members : Members) (name : String) :
    Value.lookup name (membersFrom read members) =
      ((last? name members).map (·.2.value)).or (Value.lookup name read) := by
  induction members generalizing read with
  | nil => rfl
  | cons member rest ih =>
    obtain ⟨place, other, o⟩ := member
    rw [membersFrom, ih, Value.lookup_insert, last?]
    -- a later member of the same name takes the place of the one at the front
    by_cases h : other = name <;> cases last? name rest <;> simp [h]

end Outline

/-! ## Reading without a reader -/

/-- What may be read: a value, or the items or the members of one from the start of one on. -/
inductive Part
  | value (o : Outline)
  | items (os : List Outline)
  | members (ms : Outline.Members)

/-- A text begins with a part, and the rest is behind it and behind the bracket that closes it. -/
inductive Reads : Part → List Char → List Char → Prop
  | leaf {s rest : List Char} {v : Value} (h : readScalar s = .ok (v, rest)) (hv : v.IsScalar) :
    Reads (.value (.leaf v hv)) s rest
  | noItems {s rest : List Char} (h : skipSpace s = ']' :: rest) :
    Reads (.value (.arr [])) ('[' :: s) rest
  | array {s rest : List Char} {os : List Outline} (h : Reads (.items os) (skipSpace s) rest) :
    Reads (.value (.arr os)) ('[' :: s) rest
  | noMembers {s rest : List Char} (h : skipSpace s = '\x7d' :: rest) :
    Reads (.value (.obj [])) ('\x7b' :: s) rest
  | object {s rest : List Char} {ms : Outline.Members}
    (h : Reads (.members ms) (skipSpace s) rest) : Reads (.value (.obj ms)) ('\x7b' :: s) rest
  | lastItem {s mid rest : List Char} {o : Outline} (h : Reads (.value o) s mid)
    (hmid : skipSpace mid = ']' :: rest) : Reads (.items [o]) s rest
  | nextItem {s mid next rest : List Char} {o : Outline} {os : List Outline}
    (h : Reads (.value o) s mid) (hmid : skipSpace mid = ',' :: next)
    (hnext : Reads (.items os) (skipSpace next) rest) : Reads (.items (o :: os)) s rest
  | lastMember {s start mid rest : List Char} {name : String} {o : Outline}
    (hname : readName s = .ok (name, start)) (h : Reads (.value o) start mid)
    (hmid : skipSpace mid = '\x7d' :: rest) : Reads (.members [(s, name, o)]) s rest
  | nextMember {s start mid next rest : List Char} {name : String} {o : Outline}
    {ms : Outline.Members} (hname : readName s = .ok (name, start))
    (h : Reads (.value o) start mid) (hmid : skipSpace mid = ',' :: next)
    (hnext : Reads (.members ms) (skipSpace next) rest) :
    Reads (.members ((s, name, o) :: ms)) s rest

/-- A text is a document with this outline. -/
structure Outlines (text : String) (o : Outline) : Prop where
  noMark : text.toList.head? ≠ some '\uFEFF'
  reads : ∃ rest, Reads (.value o) (skipSpace text.toList) rest ∧ skipSpace rest = []

/-- What starts at the first character of an item is no bracket that closes. -/
theorem Reads.value_start {p : Part} {s rest : List Char} (h : Reads p s rest) :
    ∃ c t, s = c :: t ∧ c ≠ ']' ∧ c ≠ '\x7d' := by
  induction h with
  | leaf h =>
    obtain ⟨c, t, rfl, hc⟩ := startsScalar_of_readScalar h
    refine ⟨c, t, rfl, ?_, ?_⟩ <;> rintro rfl <;> simp [startsScalar] at hc
  | noItems | array | noMembers | object => exact ⟨_, _, rfl, by decide, by decide⟩
  | lastItem _ _ ih | nextItem _ _ _ ih => exact ih
  | lastMember hname | nextMember hname =>
    unfold readName at hname
    split at hname
    · exact ⟨_, _, rfl, by decide, by decide⟩
    · cases hname

/-- Two parts of one kind. -/
inductive Part.Alike : Part → Part → Prop
  | value (o o' : Outline) : Alike (.value o) (.value o')
  | items (os os' : List Outline) : Alike (.items os) (.items os')
  | members (ms ms' : Outline.Members) : Alike (.members ms) (.members ms')

theorem not_readScalar_of_bracket {c : Char} (hc : ¬startsScalar c = true) {s rest : List Char}
    {v : Value} : readScalar (c :: s) ≠ .ok (v, rest) := by
  intro h
  obtain ⟨_, _, heq, hstart⟩ := startsScalar_of_readScalar h
  cases heq
  exact hc hstart

theorem Reads.skipSpace_ne {p : Part} {s rest : List Char} (h : Reads p (skipSpace s) rest)
    (rest' : List Char) : skipSpace s ≠ ']' :: rest' ∧ skipSpace s ≠ '\x7d' :: rest' := by
  obtain ⟨c, t, heq, hbracket, hbrace⟩ := h.value_start
  simp [heq, hbracket, hbrace]

/-- A text is read in one way at most. -/
theorem Reads.unique {p p' : Part} {s rest rest' : List Char} (h : Reads p s rest)
    (h' : Reads p' s rest') (halike : p.Alike p') : p = p' ∧ rest = rest' := by
  -- on the first reading; the first character tells which rule the second one ends with
  induction h generalizing p' rest' with
  | leaf h =>
    cases h' with
    | leaf h' => simp_all
    | noItems | array | noMembers | object => exact absurd h (not_readScalar_of_bracket (by decide))
    | lastItem | nextItem | lastMember | nextMember => cases halike
  | noItems h =>
    cases h' with
    | leaf h' => exact absurd h' (not_readScalar_of_bracket (by decide))
    | noItems h' => simp_all
    | array h' => exact absurd h (h'.skipSpace_ne _).1
    | lastItem | nextItem | lastMember | nextMember => cases halike
  | array h ih =>
    cases h' with
    | leaf h' => exact absurd h' (not_readScalar_of_bracket (by decide))
    | noItems h' => exact absurd h' (h.skipSpace_ne _).1
    | array h' => simpa using ih h' (.items _ _)
    | lastItem | nextItem | lastMember | nextMember => cases halike
  | noMembers h =>
    cases h' with
    | leaf h' => exact absurd h' (not_readScalar_of_bracket (by decide))
    | noMembers h' => simp_all
    | object h' => exact absurd h (h'.skipSpace_ne _).2
    | lastItem | nextItem | lastMember | nextMember => cases halike
  | object h ih =>
    cases h' with
    | leaf h' => exact absurd h' (not_readScalar_of_bracket (by decide))
    | noMembers h' => exact absurd h' (h.skipSpace_ne _).2
    | object h' => simpa using ih h' (.members _ _)
    | lastItem | nextItem | lastMember | nextMember => cases halike
  | lastItem h hmid ih =>
    cases h' with
    | lastItem h' | nextItem h' =>
      obtain ⟨heq, rfl⟩ := ih h' (.value _ _)
      simp_all
    | leaf | noItems | array | noMembers | object | lastMember | nextMember => cases halike
  | nextItem h hmid hnext ih ihnext =>
    cases h' with
    | lastItem h' =>
      obtain ⟨heq, rfl⟩ := ih h' (.value _ _)
      simp_all
    | nextItem h' hmid' hnext' =>
      obtain ⟨heq, rfl⟩ := ih h' (.value _ _)
      obtain rfl : _ = _ := (List.cons.inj (hmid.symm.trans hmid')).2
      simpa [Part.value.inj heq] using ihnext hnext' (.items _ _)
    | leaf | noItems | array | noMembers | object | lastMember | nextMember => cases halike
  | lastMember hname h hmid ih =>
    cases h' with
    | lastMember hname' h' | nextMember hname' h' =>
      cases hname.symm.trans hname'
      obtain ⟨heq, rfl⟩ := ih h' (.value _ _)
      simp_all
    | leaf | noItems | array | noMembers | object | lastItem | nextItem => cases halike
  | nextMember hname h hmid hnext ih ihnext =>
    cases h' with
    | lastMember hname' h' =>
      cases hname.symm.trans hname'
      obtain ⟨heq, rfl⟩ := ih h' (.value _ _)
      simp_all
    | nextMember hname' h' hmid' hnext' =>
      cases hname.symm.trans hname'
      obtain ⟨heq, rfl⟩ := ih h' (.value _ _)
      obtain rfl : _ = _ := (List.cons.inj (hmid.symm.trans hmid')).2
      simpa [Part.value.inj heq] using ihnext hnext' (.members _ _)
    | leaf | noItems | array | noMembers | object | lastItem | nextItem => cases halike

theorem Outlines.unique {text : String} {o o' : Outline} (h : Outlines text o)
    (h' : Outlines text o') : o = o' := by
  obtain ⟨-, rest, hreads, -⟩ := h
  obtain ⟨-, rest', hreads', -⟩ := h'
  exact Part.value.inj (hreads.unique hreads' (.value _ _)).1

/-! ## What is read has an outline -/

/-- What is read within a bound has an outline. -/
structure Outlined (bound : Nat) : Prop where
  value : ∀ {room s v rest}, readValue bound room s = .ok (v, rest) →
    ∃ o, Reads (.value o) s rest ∧ o.value = v
  items : ∀ {room read s vs rest}, readItems bound room read s = .ok (vs, rest) →
    ∃ os, Reads (.items os) s rest ∧ vs = read.reverse ++ Outline.valuesOf os
  members : ∀ {room read s ms rest}, readMembers bound room read s = .ok (ms, rest) →
    ∃ os, Reads (.members os) s rest ∧ ms = Outline.membersFrom read os

theorem Outlined.value_succ {bound room : Nat} {s rest : List Char} {v : Value}
    (ih : Outlined bound) (h : readValue (bound + 1) room s = .ok (v, rest)) :
    ∃ o, Reads (.value o) s rest ∧ o.value = v := by
  unfold readValue at h
  split at h
  · cases h
  · cases h
  · split at h
    · next hspace =>
      cases h
      exact ⟨.arr [], .noItems hspace, rfl⟩
    · obtain ⟨⟨items, rest⟩, hitems, heq⟩ := map_eq_ok.mp h
      cases heq
      obtain ⟨os, hreads, rfl⟩ := ih.items hitems
      exact ⟨.arr os, .array hreads, rfl⟩
  · split at h
    · next hspace =>
      cases h
      exact ⟨.obj [], .noMembers hspace, rfl⟩
    · obtain ⟨⟨members, rest⟩, hmembers, heq⟩ := map_eq_ok.mp h
      cases heq
      obtain ⟨os, hreads, rfl⟩ := ih.members hmembers
      exact ⟨.obj os, .object hreads, rfl⟩
  · exact ⟨.leaf v (isScalar_of_readScalar h), .leaf h _, rfl⟩

theorem Outlined.items_succ {bound room : Nat} {read vs : List Value} {s rest : List Char}
    (ih : Outlined bound) (h : readItems (bound + 1) room read s = .ok (vs, rest)) :
    ∃ os, Reads (.items os) s rest ∧ vs = read.reverse ++ Outline.valuesOf os := by
  rw [readItems, bind_eq_ok] at h
  obtain ⟨⟨v, mid⟩, hvalue, h⟩ := h
  obtain ⟨o, hreads, rfl⟩ := ih.value hvalue
  dsimp only at h
  split at h
  · next hmid =>
    cases h
    exact ⟨[o], .lastItem hreads hmid, by simp [Outline.valuesOf]⟩
  · next hmid =>
    obtain ⟨os, hnext, rfl⟩ := ih.items h
    exact ⟨o :: os, .nextItem hreads hmid hnext, by simp [Outline.valuesOf]⟩
  · cases h

theorem Outlined.members_succ {bound room : Nat} {read ms : List (String × Value)}
    {s rest : List Char} (ih : Outlined bound)
    (h : readMembers (bound + 1) room read s = .ok (ms, rest)) :
    ∃ os, Reads (.members os) s rest ∧ ms = Outline.membersFrom read os := by
  rw [readMembers, bind_eq_ok] at h
  obtain ⟨⟨name, start⟩, hname, h⟩ := h
  obtain ⟨⟨v, mid⟩, hvalue, h⟩ := bind_eq_ok.mp h
  obtain ⟨o, hreads, rfl⟩ := ih.value hvalue
  dsimp only at h
  split at h
  · next hmid =>
    cases h
    exact ⟨[(s, name, o)], .lastMember hname hreads hmid, rfl⟩
  · next hmid =>
    obtain ⟨os, hnext, rfl⟩ := ih.members h
    exact ⟨(s, name, o) :: os, .nextMember hname hreads hmid hnext, rfl⟩
  · cases h

theorem outlined (bound : Nat) : Outlined bound := by
  induction bound with
  | zero =>
    refine ⟨fun h => ?_, fun h => ?_, fun h => ?_⟩
    · rw [readValue] at h
      cases h
    · rw [readItems] at h
      cases h
    · rw [readMembers] at h
      cases h
  | succ bound ih => exact ⟨ih.value_succ, ih.items_succ, ih.members_succ⟩

/-- A document that is read has an outline with its value. -/
theorem exists_outlines {text : String} {doc : Value} (h : parse text = .ok doc) :
    ∃ o, Outlines text o ∧ o.value = doc := by
  obtain ⟨hmark, rest, hread, hrest⟩ := parseChars_eq_ok.mp h
  obtain ⟨o, hreads, heq⟩ := (outlined _).value hread
  exact ⟨o, ⟨hmark, rest, hreads, hrest⟩, heq⟩

end ProblemMatcher.Json
