import ProblemMatcher.Proofs.Json.PatternLists
import ProblemMatcher.Proofs.Matcher.Acceptance

/-!
# Where chains are declared

A document may have many lists under the name `pattern`. Those that make chains are the last of
their name in an object that declares a matcher; the rest are in members that nothing reads or that
gave way to later ones. By the outline of a document each chain among its matchers has its place in
the text, in the same order.

1. `eq_map_declared`: the declarations of a document are those of its outline.
2. `forall₂_chainPlaces`: the places of chains, and the chains among the matchers.
3. `declared_sublist`: what is declared has its members among those of the document.
4. `chainPlaces_sublist`: the places are some of the lists under the name `pattern`.
-/

namespace ProblemMatcher

open Json Matcher
open scoped List

namespace Json.Outline

/-- What declares the matchers of a document. -/
def declared : Outline → List Outline
  | leaf _ _ => []
  | arr items => items
  | obj members =>
    match ((last? "contributes" members).map Prod.snd).getD (obj members) with
    | obj contributes =>
      match (last? "problemMatchers" contributes).map Prod.snd with
      | some (arr items) => items
      | _ => []
    | _ => []

/-- Where a declaration has its chain, if it declares one. -/
def chainPlace? : Outline → Option (List Char)
  | obj members =>
    match last? "pattern" members with
    | some (place, arr _) => some place
    | _ => none
  | _ => none

/-- Where the chains of a document are declared. -/
def chainPlaces (o : Outline) : List (List Char) :=
  o.declared.filterMap chainPlace?

theorem value_eq_arr {o : Outline} {items : List Value} (h : o.value = .arr items) :
    ∃ os, o = .arr os ∧ items = os.map value := by
  cases o with
  | leaf v hv =>
    obtain rfl : v = .arr items := h
    exact hv.elim
  | arr os =>
    cases h
    exact ⟨os, rfl, valuesOf_eq_map os⟩
  | obj members => cases h

theorem value_eq_obj {o : Outline} {members : List (String × Value)} (h : o.value = .obj members) :
    ∃ ms, o = .obj ms ∧ members = membersFrom [] ms := by
  cases o with
  | leaf v hv =>
    obtain rfl : v = .obj members := h
    exact hv.elim
  | arr os => cases h
  | obj ms =>
    cases h
    exact ⟨ms, rfl, rfl⟩

theorem get?_membersFrom (ms : Members) (name : String) :
    ProblemMatcher.Members.get? (membersFrom [] ms) name = (last? name ms).map (·.2.value) := by
  unfold ProblemMatcher.Members.get?
  rw [lookup_membersFrom]
  cases last? name ms <;> rfl

/-- The declarations of a document are those of its outline. -/
theorem eq_map_declared {o : Outline} {items : List Value} (h : HoldsMatchers o.value items) :
    items = o.declared.map value := by
  obtain h | ⟨members, contributes, hmembers, hcontributes, hitems⟩ := h
  · obtain ⟨os, rfl, rfl⟩ := value_eq_arr h
    rfl
  · obtain ⟨ms, rfl, rfl⟩ := value_eq_obj hmembers
    have hvalue : (((last? "contributes" ms).map Prod.snd).getD (obj ms)).value =
        .obj contributes := by
      rw [get?_membersFrom] at hcontributes
      cases hlast : last? "contributes" ms <;> simp_all [value]
    obtain ⟨cs, hcs, rfl⟩ := value_eq_obj hvalue
    rw [get?_membersFrom] at hitems
    simp only [declared, hcs]
    cases hlast : last? "problemMatchers" cs with
    | none =>
      rw [hlast] at hitems
      cases hitems
      rfl
    | some found =>
      rw [hlast] at hitems
      obtain ⟨os, hos, rfl⟩ := value_eq_arr hitems
      simp [hos]

theorem chained_iff {o : Outline} {index : Nat} {m : Matcher}
    (h : DeclaresMatcher o.value index m) : m.chained = true ↔ o.chainPlace?.isSome = true := by
  generalize hv : o.value = v at h
  cases h with
  | object h =>
    obtain ⟨ms, rfl, rfl⟩ := value_eq_obj hv
    rw [h.chained, get?_membersFrom, chainPlace?]
    cases hlast : last? "pattern" ms with
    | none => simp
    | some found =>
      obtain ⟨place, o⟩ := found
      cases o with
      | leaf v hv =>
        have hne : ∀ items, v ≠ .arr items := by
          rintro items rfl
          exact hv
        simp [value, hne]
      | arr | obj => simp [value]

/-- Of a matcher among others, the chain is at this place of its own declaration. -/
def ChainAt (os : List Outline) (ms : List Matcher) (place : List Char) (m : Matcher) : Prop :=
  ∃ (i : Nat) (o : Outline), os[i]? = some o ∧ o.chainPlace? = some place ∧ ms[i]? = some m

theorem ChainAt.cons {os : List Outline} {ms : List Matcher} {place : List Char} {m : Matcher}
    (h : ChainAt os ms place m) (o : Outline) (m' : Matcher) :
    ChainAt (o :: os) (m' :: ms) place m := by
  obtain ⟨i, o', ho, hplace, hm⟩ := h
  exact ⟨i + 1, o', by simpa using ho, hplace, by simpa using hm⟩

/-- The chains among the matchers, and the places of their declarations. -/
theorem forall₂_chainPlace? {os : List Outline} {n : Nat} {ms : List Matcher}
    (h : List.Forall₂ (fun v m => DeclaresMatcher v.1 v.2 m) ((os.map value).zipIdx n) ms) :
    List.Forall₂ (ChainAt os ms) (os.filterMap chainPlace?) (ms.filter (·.chained)) := by
  induction os generalizing n ms with
  | nil =>
    cases h
    exact .nil
  | cons o os ih =>
    rw [List.map_cons, List.zipIdx_cons] at h
    cases h with
    | @cons _ m _ ms hm hrest =>
      have hiff := chained_iff hm
      have htail := (ih hrest).imp fun _ _ h => h.cons o m
      cases hplace : o.chainPlace? with
      | none =>
        have hchained : ¬m.chained = true := by simp [hiff, hplace]
        simpa [List.filterMap_cons, hplace, hchained] using htail
      | some place =>
        have hchained : m.chained = true := by simp [hiff, hplace]
        simpa [List.filterMap_cons, hplace, hchained] using
          List.Forall₂.cons ⟨0, o, rfl, hplace, rfl⟩ htail

theorem forall₂_chainPlaces {o : Outline} {ms : List Matcher}
    (h : ofDocument o.value = .ok ms) :
    List.Forall₂ (ChainAt o.declared ms) o.chainPlaces (ms.filter (·.chained)) := by
  obtain ⟨items, hitems, h⟩ := ofDocument_eq_ok.mp h
  obtain rfl := eq_map_declared hitems
  exact forall₂_chainPlace? ((@ofValuesFrom_eq_ok 0 _ _).mp h).2

/-! ## Among the members of the document -/

theorem declared_sublist (o : Outline) : o.declared.flatMap allMembers <+ o.allMembers := by
  cases o with
  | leaf => exact List.nil_sublist _
  | arr os =>
    show os.flatMap allMembers <+ allMembersOf os
    rw [allMembersOf_eq_flatMap]
  | obj ms =>
    have hheld : (((last? "contributes" ms).map Prod.snd).getD (obj ms)).allMembers <+
        (obj ms).allMembers := by
      cases h : (last? "contributes" ms).map Prod.snd with
      | none => exact List.Sublist.refl _
      | some contributes => exact allMembers_sublist_of_last? h
    simp only [declared]
    split
    · next cs hcs =>
      rw [hcs] at hheld
      split
      · next items hitems =>
        rw [← allMembersOf_eq_flatMap]
        exact (allMembers_sublist_of_last? hitems).trans hheld
      · exact List.nil_sublist _
    · exact List.nil_sublist _

/-- What each declaration has of its members, all have of those of the document, in their order. -/
theorem filterMap_declared_sublist {β : Type} {f : Outline → Option β}
    {g : List Char × String × Outline → Option β}
    (h : ∀ v, (f v).toList <+ v.allMembers.filterMap g) (o : Outline) :
    o.declared.filterMap f <+ o.allMembers.filterMap g := by
  rw [List.filterMap_eq_flatMap_toList]
  refine (List.Sublist.flatMap_right o.declared fun v _ => h v).trans ?_
  rw [← List.filterMap_flatMap]
  exact o.declared_sublist.filterMap g

/-- The chains are some of the lists under the name `pattern`, in their order. -/
theorem chainPlaces_sublist (o : Outline) : o.chainPlaces <+ o.patternLists := by
  rw [patternLists_eq]
  refine filterMap_declared_sublist (fun v => ?_) o
  unfold chainPlace?
  split
  · split
    · next ms _ place items hlast =>
      have hmem := (cons_sublist_of_last? hlast).subset List.mem_cons_self
      exact List.singleton_sublist.mpr (List.mem_filterMap.mpr ⟨_, hmem, by simp [listPlace?, isList]⟩)
    · exact List.nil_sublist _
  · exact List.nil_sublist _

end Json.Outline

end ProblemMatcher
