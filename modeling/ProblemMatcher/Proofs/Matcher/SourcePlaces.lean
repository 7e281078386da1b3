import ProblemMatcher.Proofs.Matcher.ChainPlaces

/-!
# Where single patterns are declared

The source of a pattern that is given by an object is the last member of its name in that object. In
a document whose matchers all have such a pattern, each matcher has the place of its source in the
text, in the same order.

1. `forall₂_sourcePlaces`: the places of the sources, and the matchers.
2. `sourcePlaces_sublist`: they are places of members, one behind the other.
-/

namespace ProblemMatcher

open Json Matcher
open scoped List

namespace Json.Outline

/-- The member that has the source of a declaration, if its pattern is an object. -/
def sourceMember? : Outline → Option (List Char × Outline)
  | obj members =>
    match last? "pattern" members with
    | some (_, obj pattern) => last? "regexp" pattern
    | _ => none
  | _ => none

/-- Where the sources of a document are declared. -/
def sourcePlaces (o : Outline) : List (List Char) :=
  o.declared.filterMap fun v => v.sourceMember?.map Prod.fst

/-- A matcher has one pattern, which is not in a list, and its source is at this place. -/
structure SourceAt (o : Outline) (place : List Char) (m : Matcher) : Prop where
  chained : m.chained = false
  source : ∃ f member, m.fragments = [f] ∧ (place, "regexp", member) ∈ o.allMembers ∧
    member.value = .str f.source

theorem sourceMember?_eq_some {o : Outline} {found : List Char × Outline} :
    o.sourceMember? = some found ↔ ∃ members place pattern, o = obj members ∧
      last? "pattern" members = some (place, obj pattern) ∧ last? "regexp" pattern = some found := by
  constructor
  · intro h
    unfold sourceMember? at h
    split at h
    · split at h
      · next members _ place pattern hlast => exact ⟨members, place, pattern, rfl, hlast, h⟩
      · cases h
    · cases h
  · rintro ⟨members, place, pattern, rfl, hpattern, hsource⟩
    rw [sourceMember?, hpattern]
    exact hsource

theorem mem_allMembers_of_sourceMember? {o member : Outline} {place : List Char}
    (h : o.sourceMember? = some (place, member)) : (place, "regexp", member) ∈ o.allMembers := by
  obtain ⟨members, _, pattern, rfl, hpattern, hsource⟩ := sourceMember?_eq_some.mp h
  have hinner := (cons_sublist_of_last? hsource).subset List.mem_cons_self
  exact (cons_sublist_of_last? hpattern).subset (List.mem_cons_of_mem _ hinner)

/-- A declaration with a pattern object declares one pattern, by the source in the object. -/
theorem sourceAt_of_declaresMatcher {o v member : Outline} {place : List Char} {index : Nat}
    {m : Matcher} (h : DeclaresMatcher v.value index m)
    (hsource : v.sourceMember? = some (place, member)) (hsub : v.allMembers ⊆ o.allMembers) :
    SourceAt o place m := by
  have hmem := hsub (mem_allMembers_of_sourceMember? hsource)
  obtain ⟨members, _, pattern, rfl, hpattern, hregexp⟩ := sourceMember?_eq_some.mp hsource
  generalize hv : (obj members).value = value at h
  cases h with
  | object h =>
    cases hv
    obtain ⟨v, hv, hfragments⟩ := h.fragments
    rw [get?_membersFrom, hpattern] at hv
    cases hv
    change List.Forall₂ Declares [(obj pattern).value] m.fragments at hfragments
    obtain ⟨f, rest, hf, hrest, hfragments⟩ := List.forall₂_cons_left_iff.mp hfragments
    rw [List.forall₂_nil_left_iff] at hrest
    subst hrest
    have hchained : m.chained = false := by
      rw [← Bool.not_eq_true, h.chained, get?_membersFrom, hpattern]
      rintro ⟨items, hitems⟩
      cases Option.some.inj hitems
    refine ⟨hchained, f, member, hfragments, hmem, ?_⟩
    generalize hp : (obj pattern).value = p at hf
    cases hf with
    | text => cases hp
    | object hf =>
      cases hp
      rw [get?_membersFrom, hregexp] at hf
      exact Option.some.inj hf

theorem forall₂_sourceMember? {o : Outline} {os : List Outline} {n : Nat} {ms : List Matcher}
    (h : List.Forall₂ (fun v m => DeclaresMatcher v.1 v.2 m) ((os.map value).zipIdx n) ms)
    (hall : ∀ v ∈ os, v.sourceMember?.isSome = true) (hsub : ∀ v ∈ os, v.allMembers ⊆ o.allMembers) :
    List.Forall₂ (SourceAt o) (os.filterMap fun v => v.sourceMember?.map Prod.fst) ms := by
  induction os generalizing n ms with
  | nil =>
    cases h
    exact .nil
  | cons v os ih =>
    rw [List.map_cons, List.zipIdx_cons] at h
    rw [List.forall_mem_cons] at hall hsub
    obtain ⟨⟨place, member⟩, hsource⟩ := Option.isSome_iff_exists.mp hall.1
    cases h with
    | cons hm hrest =>
      rw [List.filterMap_cons, hsource]
      exact .cons (sourceAt_of_declaresMatcher hm hsource hsub.1) (ih hrest hall.2 hsub.2)

/-- Each matcher has the place of its source. -/
theorem forall₂_sourcePlaces {o : Outline} {ms : List Matcher} (h : ofDocument o.value = .ok ms)
    (hall : ∀ v ∈ o.declared, v.sourceMember?.isSome = true) :
    List.Forall₂ (SourceAt o) o.sourcePlaces ms := by
  obtain ⟨items, hitems, h⟩ := ofDocument_eq_ok.mp h
  obtain rfl := eq_map_declared hitems
  exact forall₂_sourceMember? ((@ofValuesFrom_eq_ok 0 _ _).mp h).2 hall fun v hv _ hmem =>
    o.declared_sublist.subset (List.mem_flatMap.mpr ⟨v, hv, hmem⟩)

/-- The places of the sources are some of those of the members, in their order. -/
theorem sourcePlaces_sublist (o : Outline) : o.sourcePlaces <+ o.allMembers.map Prod.fst := by
  have h := filterMap_declared_sublist (f := fun v => v.sourceMember?.map Prod.fst)
    (g := fun member => some member.1) (fun v => ?_) o
  · rwa [List.filterMap_eq_map'] at h
  · cases hsource : v.sourceMember? with
    | none => exact List.nil_sublist _
    | some found =>
      have hmem := mem_allMembers_of_sourceMember? hsource
      exact List.singleton_sublist.mpr (List.mem_filterMap.mpr ⟨_, hmem, rfl⟩)

end Json.Outline

/-- The sources of a document stand one behind the other. -/
theorem Json.Outlines.descend_sourcePlaces {text : String} {o : Outline} (h : Outlines text o) :
    Descend o.sourcePlaces :=
  h.descend_allMembers.sublist o.sourcePlaces_sublist

end ProblemMatcher
