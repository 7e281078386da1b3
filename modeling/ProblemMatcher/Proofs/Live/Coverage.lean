import Mathlib
import ProblemMatcher.Live

/-!
# What the loop over all matches leaves out

The loop over the matches of a live pattern loses no match. An engine is given by what it matches at
each place of a text (`FirstMatches`): a search from a place on finds the match at the first place
that has one.

1. `nextCursor_some`, `nextCursor_none`: a step goes past the start of a match, never past the end of
   the text, and skips only places strictly inside the match; the loop ends early only after an empty
   match in front of the last place.
2. `iterateFrom_covers`: so whatever the cursor, the places from there on are accounted for.
3. `iterMatches_accounts`: at every place where the pattern matches, exactly one of three things
   holds.
-/

namespace ProblemMatcher

namespace Live

open Regex (Match)

/-- A search finds what `matchAt` has at the first place, from the given one on, where it has
anything; what it has at a place begins there and ends in the text. -/
structure FirstMatches (search : Search) (size : Nat) (matchAt : Nat → Option Match) : Prop where
  span : ∀ pos found, matchAt pos = some found →
    found.start = pos ∧ pos ≤ found.stop ∧ found.stop ≤ size
  search_eq : ∀ pos ≤ size,
    search pos = .ok ((List.range' pos (size + 1 - pos)).findSome? matchAt)

/-! ## One search -/

section Search

variable {search : Search} {size : Nat} {matchAt : Nat → Option Match}

/-- A match found from a place on is the one at its start, and there is none before it. -/
theorem FirstMatches.found (h : FirstMatches search size matchAt) {pos : Nat} {found : Match}
    (hf : (List.range' pos (size + 1 - pos)).findSome? matchAt = some found) :
    pos ≤ found.start ∧ found.start ≤ found.stop ∧ found.stop ≤ size ∧
      matchAt found.start = some found ∧ ∀ p, pos ≤ p → p < found.start → matchAt p = none := by
  obtain ⟨before, start, after, hsplit, hstart, hbefore⟩ := List.findSome?_eq_some_iff.mp hf
  obtain ⟨rfl, hle, hsize⟩ := h.span start found hstart
  have hlen : before.length < size + 1 - pos := by
    have := congrArg List.length hsplit
    simp only [List.length_range', List.length_append, List.length_cons] at this
    omega
  have hat : found.start = pos + before.length := by
    have := congrArg (·[before.length]?) hsplit
    simp only [List.getElem?_append_right (Nat.le_refl _), Nat.sub_self, List.getElem?_cons_zero,
      List.getElem?_range' hlen, Nat.one_mul, Option.some.injEq] at this
    omega
  refine ⟨by omega, hle, hsize, hstart, fun p hp hlt => ?_⟩
  apply hbefore
  have hmem : p ∈ List.range' pos (size + 1 - pos) := by
    rw [List.mem_range'_1]; omega
  rw [hsplit, List.mem_append, List.mem_cons] at hmem
  rcases hmem with hmem | rfl | hmem
  · exact hmem
  · omega
  · -- what comes after the start is greater than it
    have hsorted : (before ++ found.start :: after).Pairwise (· < ·) := by
      rw [← hsplit]; exact List.pairwise_lt_range'
    have := (List.pairwise_cons.mp (List.pairwise_append.mp hsorted).2.1).1 p hmem
    omega

theorem matchAt_of_not_found {pos : Nat}
    (hf : (List.range' pos (size + 1 - pos)).findSome? matchAt = none) :
    ∀ p, pos ≤ p → p ≤ size → matchAt p = none := by
  intro p hp hle
  refine List.findSome?_eq_none_iff.mp hf p ?_
  rw [List.mem_range'_1]
  omega

end Search

/-! ## One step -/

/-- A step goes past the start of the match, and over no place that is not strictly inside it. -/
theorem nextCursor_some {size cursor : Nat} {found : Match} (hle : found.start ≤ found.stop)
    (hsize : found.stop ≤ size) (h : nextCursor size found = some cursor) :
    found.start < cursor ∧ cursor ≤ size ∧ found.stop ≤ cursor ∧
      ∀ p, found.start < p → p < cursor → p < found.stop := by
  unfold nextCursor at h
  split_ifs at h with hempty hlt
  · obtain rfl : found.stop + 1 = cursor := by simpa using h
    exact ⟨by omega, by omega, by omega, fun p _ _ => by omega⟩
  · obtain rfl : found.stop = cursor := by simpa using h
    exact ⟨by omega, hsize, Nat.le_refl _, fun p _ hp => hp⟩

/-- The loop ends after a match only if the match is empty and at most the end of the text is
left. -/
theorem nextCursor_none {size : Nat} {found : Match} (h : nextCursor size found = none) :
    found.stop = found.start ∧ size ≤ found.start + 1 := by
  unfold nextCursor at h
  split_ifs at h with hempty hlt
  omega

/-! ## All steps -/

/-- Matches given by where they start and end. -/
abbrev Spans := List (Nat × Nat)

namespace Spans

def StartsAt (spans : Spans) (p : Nat) : Prop :=
  ∃ stop, (p, stop) ∈ spans

/-- Strictly between the start and the end of one of the matches. -/
def Around (spans : Spans) (p : Nat) : Prop :=
  ∃ start stop, (start, stop) ∈ spans ∧ start < p ∧ p < stop

/-- The end of the text, right behind the place where the last match is, an empty one. -/
def StopsBefore (spans : Spans) (size p : Nat) : Prop :=
  p = size ∧ 1 ≤ size ∧ spans.getLast? = some (size - 1, size - 1)

/-- Each match begins past the start of all before it, and not before their ends. -/
def InOrder (spans : Spans) : Prop :=
  spans.Pairwise fun a b => a.1 < b.1 ∧ a.2 ≤ b.1

end Spans

/-- Where a match goes from and to. -/
def spanOf (found : Match) : Nat × Nat :=
  (found.start, found.stop)

/-- The matches found from a cursor on are those of the engine, in order, and account for every
place from the cursor on. -/
structure Covers (size : Nat) (matchAt : Nat → Option Match) (cursor : Nat) (found : List Match) :
    Prop where
  own : ∀ m ∈ found, cursor ≤ m.start ∧ m.stop ≤ size ∧ matchAt m.start = some m
  inOrder : Spans.InOrder (found.map spanOf)
  accounts : ∀ p, cursor ≤ p → p ≤ size → (matchAt p).isSome = true →
    Spans.StartsAt (found.map spanOf) p ∨ Spans.Around (found.map spanOf) p ∨
      Spans.StopsBefore (found.map spanOf) size p

section Iterate

variable {search : Search} {size : Nat} {matchAt : Nat → Option Match}

theorem covers_nil {cursor : Nat} (h : ∀ p, cursor ≤ p → p ≤ size → matchAt p = none) :
    Covers size matchAt cursor [] where
  own := by simp
  inOrder := List.Pairwise.nil
  accounts p hp hle hm := by rw [h p hp hle] at hm; simp at hm

/-- The loop ends after an empty match in front of the end of the text. -/
theorem covers_last {cursor : Nat} {found : Match} (hpos : cursor ≤ found.start)
    (hsize : found.stop ≤ size) (hat : matchAt found.start = some found)
    (hbefore : ∀ p, cursor ≤ p → p < found.start → matchAt p = none)
    (hnext : nextCursor size found = none) : Covers size matchAt cursor [found] where
  own := by simpa using ⟨hpos, hsize, hat⟩
  inOrder := by simp [Spans.InOrder]
  accounts p hp hle hm := by
    obtain ⟨hempty, hend⟩ := nextCursor_none hnext
    rcases Nat.lt_trichotomy p found.start with hlt | rfl | hgt
    · rw [hbefore p hp hlt] at hm; simp at hm
    · exact Or.inl ⟨found.stop, by simp [spanOf]⟩
    · refine Or.inr (Or.inr ⟨by omega, by omega, ?_⟩)
      simp only [List.map_cons, List.map_nil, List.getLast?_singleton, spanOf, Option.some.injEq,
        Prod.mk.injEq]
      omega

/-- A match in front of what is found from the next cursor on. -/
theorem Covers.cons {cursor next : Nat} {found : Match} {rest : List Match}
    (hpos : cursor ≤ found.start) (hle : found.start ≤ found.stop) (hsize : found.stop ≤ size)
    (hat : matchAt found.start = some found)
    (hbefore : ∀ p, cursor ≤ p → p < found.start → matchAt p = none)
    (hnext : nextCursor size found = some next) (h : Covers size matchAt next rest) :
    Covers size matchAt cursor (found :: rest) := by
  obtain ⟨hlt, -, hstop, hinside⟩ := nextCursor_some hle hsize hnext
  refine ⟨?_, ?_, ?_⟩
  · intro m hm
    rcases List.mem_cons.mp hm with rfl | hm
    · exact ⟨hpos, hsize, hat⟩
    · obtain ⟨h1, h2, h3⟩ := h.own m hm
      exact ⟨by omega, h2, h3⟩
  · refine List.pairwise_cons.mpr ⟨fun s hs => ?_, h.inOrder⟩
    obtain ⟨m, hm, rfl⟩ := List.mem_map.mp hs
    have := (h.own m hm).1
    simp only [spanOf]
    omega
  · intro p hp hle' hm
    rcases Nat.lt_or_ge p next with hp' | hp'
    · rcases Nat.lt_trichotomy p found.start with hlt' | rfl | hgt
      · rw [hbefore p hp hlt'] at hm; simp at hm
      · exact Or.inl ⟨found.stop, by simp [spanOf]⟩
      · exact Or.inr (Or.inl ⟨found.start, found.stop, by simp [spanOf], hgt, hinside p hgt hp'⟩)
    · rcases h.accounts p hp' hle' hm with ⟨stop, hs⟩ | ⟨start, stop, hs, hin⟩ | ⟨he, h1, hlast⟩
      · exact Or.inl ⟨stop, List.mem_cons_of_mem _ hs⟩
      · exact Or.inr (Or.inl ⟨start, stop, List.mem_cons_of_mem _ hs, hin⟩)
      · exact Or.inr (Or.inr ⟨he, h1, by simp [List.getLast?_cons, hlast]⟩)

/-- Each step leaves less text than the bound allows for, so the bound never ends the loop. -/
theorem iterateFrom_covers (h : FirstMatches search size matchAt) :
    ∀ bound cursor, cursor ≤ size → size + 1 - cursor ≤ bound →
      (iterateFrom search size true bound cursor).fault = none ∧
        Covers size matchAt cursor (iterateFrom search size true bound cursor).found := by
  intro bound
  induction bound with
  | zero => intro cursor hc hb; omega
  | succ bound ih =>
    intro cursor hc hb
    rw [iterateFrom, h.search_eq cursor hc]
    cases hf : (List.range' cursor (size + 1 - cursor)).findSome? matchAt with
    | none => exact ⟨rfl, covers_nil (matchAt_of_not_found hf)⟩
    | some found =>
      obtain ⟨hpos, hle, hsize, hat, hbefore⟩ := h.found hf
      cases hn : nextCursor size found with
      | none => simpa [hn] using covers_last hpos hsize hat hbefore hn
      | some next =>
        obtain ⟨hlt, hnext, -, -⟩ := nextCursor_some hle hsize hn
        obtain ⟨hfault, hrest⟩ := ih next hnext (by omega)
        simpa [hn, hfault] using hrest.cons hpos hle hsize hat hbefore hn

end Iterate

/-! ## Exactly one account -/

/-- One of three statements holds, and no other does. -/
def ExactlyOne (a b c : Prop) : Prop :=
  (a ∧ ¬b ∧ ¬c) ∨ (¬a ∧ b ∧ ¬c) ∨ (¬a ∧ ¬b ∧ c)

namespace Spans.InOrder

variable {spans : Spans} {size p : Nat}

theorem apart (h : spans.InOrder) {s t : Nat × Nat} (hs : s ∈ spans) (ht : t ∈ spans) :
    s = t ∨ (s.1 < t.1 ∧ s.2 ≤ t.1) ∨ (t.1 < s.1 ∧ t.2 ≤ s.1) := by
  induction spans with
  | nil => simp at hs
  | cons first rest ih =>
    obtain ⟨hfirst, hrest⟩ := List.pairwise_cons.mp h
    rcases List.mem_cons.mp hs with rfl | hs' <;> rcases List.mem_cons.mp ht with rfl | ht'
    · exact Or.inl rfl
    · exact Or.inr (Or.inl (hfirst t ht'))
    · exact Or.inr (Or.inr (hfirst s hs'))
    · exact ih hrest hs' ht'

theorem start_le_last (h : spans.InOrder) {last s : Nat × Nat} (hlast : spans.getLast? = some last)
    (hs : s ∈ spans) : s.1 ≤ last.1 := by
  obtain ⟨before, rfl⟩ := List.getLast?_eq_some_iff.mp hlast
  rcases List.mem_append.mp hs with hs | hs
  · have := (List.pairwise_append.mp h).2.2 s hs last (by simp)
    omega
  · obtain rfl := List.mem_singleton.mp hs
    exact Nat.le_refl _

theorem not_around (h : spans.InOrder) (hp : spans.StartsAt p) : ¬ spans.Around p := by
  obtain ⟨stop, hs⟩ := hp
  rintro ⟨a, b, hab, hlt, hgt⟩
  rcases h.apart hs hab with heq | ⟨h1, -⟩ | ⟨-, h2⟩
  · simp only [Prod.mk.injEq] at heq
    omega
  · omega
  · omega

theorem not_stopsBefore (h : spans.InOrder) (hp : spans.StartsAt p) :
    ¬ spans.StopsBefore size p := by
  obtain ⟨stop, hs⟩ := hp
  rintro ⟨rfl, h1, hlast⟩
  have := h.start_le_last hlast hs
  omega

end Spans.InOrder

theorem Spans.Around.not_stopsBefore {spans : Spans} {size p : Nat} (hp : spans.Around p)
    (hsize : ∀ s ∈ spans, s.2 ≤ size) : ¬ spans.StopsBefore size p := by
  obtain ⟨a, b, hab, -, hgt⟩ := hp
  rintro ⟨rfl, -, -⟩
  have := hsize (a, b) hab
  omega

/-- Matches in order, within the text, account for a place in one way at most. -/
theorem Covers.exactlyOne {size cursor : Nat} {matchAt : Nat → Option Match} {found : List Match}
    (h : Covers size matchAt cursor found) {p : Nat} (hp : cursor ≤ p) (hle : p ≤ size)
    (hm : (matchAt p).isSome = true) :
    ExactlyOne (Spans.StartsAt (found.map spanOf) p) (Spans.Around (found.map spanOf) p)
      (Spans.StopsBefore (found.map spanOf) size p) := by
  have hsize : ∀ s ∈ found.map spanOf, s.2 ≤ size := by
    intro s hs
    obtain ⟨m, hm, rfl⟩ := List.mem_map.mp hs
    exact (h.own m hm).2.1
  rcases h.accounts p hp hle hm with hs | ha | hb
  · exact Or.inl ⟨hs, h.inOrder.not_around hs, h.inOrder.not_stopsBefore hs⟩
  · exact Or.inr (Or.inl ⟨fun hs => h.inOrder.not_around hs ha, ha, ha.not_stopsBefore hsize⟩)
  · exact Or.inr (Or.inr ⟨fun hs => h.inOrder.not_stopsBefore hs hb,
      fun ha => ha.not_stopsBefore hsize hb, hb⟩)

end Live

/-! ## Live patterns -/

namespace LivePattern

open Regex (Match)

/-- What the loop makes of a match. -/
def itemOf (p : LivePattern) (text : Array Char) (found : Match) : LiveMatch where
  start := found.start
  stop := found.stop
  diagnostic := Capture.diagnostic? ⟨found, p.regex.groupCount, text⟩ p.offsets

theorem found_allMatches [Engine] (p : LivePattern) (text : Array Char) :
    (p.allMatches text).found =
      (Live.iterate (fun pos => p.regex.search text pos) text.size p.isGlobal).found.map
        (p.itemOf text) := rfl

/-- Where the matches of a loop go from and to. -/
def spansOf (y : Live.Yield LiveMatch) : Live.Spans :=
  y.found.map fun item => (item.start, item.stop)

theorem spansOf_allMatches [Engine] (p : LivePattern) (text : Array Char) :
    spansOf (p.allMatches text) =
      (Live.iterate (fun pos => p.regex.search text pos) text.size p.isGlobal).found.map
        Live.spanOf := by
  rw [spansOf, found_allMatches, List.map_map]
  rfl

/-- **No match is lost.** A pattern that looks for all matches after normalization yields only
matches of the engine, each as the engine has it at its start. A place where the engine matches is
the start of one of them, or lies strictly inside one, or is the end of the text right behind a last
match that is empty; and it is only one of the three. -/
theorem iterMatches_accounts [Engine] {p q : LivePattern} {text : Array Char} {inject : Bool}
    {matchAt : Nat → Option Match} (hq : p.normalize inject = .ok q) (hglobal : q.isGlobal = true)
    (hengine : Live.FirstMatches (fun pos => q.regex.search text pos) text.size matchAt) :
    ∃ y, p.iterMatches text inject = .ok y ∧ y.fault = none ∧
      (∀ item ∈ y.found, ∃ found, matchAt item.start = some found ∧ item = q.itemOf text found) ∧
      ∀ pos ≤ text.size, (matchAt pos).isSome = true →
        Live.ExactlyOne ((spansOf y).StartsAt pos) ((spansOf y).Around pos)
          ((spansOf y).StopsBefore text.size pos) := by
  obtain ⟨hfault, hcovers⟩ :=
    Live.iterateFrom_covers hengine (text.size + 1) 0 (Nat.zero_le _) (by omega)
  refine ⟨q.allMatches text, ?_, ?_, ?_, ?_⟩
  · rw [iterMatches, hq]; rfl
  · rw [← hglobal] at hfault; exact hfault
  · intro item hitem
    rw [found_allMatches, hglobal] at hitem
    obtain ⟨found, hfound, rfl⟩ := List.mem_map.mp hitem
    exact ⟨found, (hcovers.own found hfound).2.2, rfl⟩
  · intro pos hpos hm
    rw [spansOf_allMatches, hglobal]
    exact hcovers.exactlyOne (Nat.zero_le _) hpos hm

/-- The ends of lines in a text that ends with a line feed: the one behind the line feed is left
out. -/
theorem iterMatches_accounts_lineEnds :
    ∃ p q : LivePattern, ofSource "$" = .ok (some p) ∧ p.normalize true = .ok q ∧
      q.isGlobal = true ∧
      let matchAt := fun pos => if pos = 1 ∨ pos = 2 then some (Match.mk pos pos []) else none
      Live.FirstMatches (fun pos => q.regex.search #['a', '\n'] pos) 2 matchAt ∧
      ∃ y, p.iterMatches #['a', '\n'] true = .ok y ∧ y.fault = none ∧
        (∀ item ∈ y.found, ∃ found,
          matchAt item.start = some found ∧ item = q.itemOf #['a', '\n'] found) ∧
        ∀ pos ≤ 2, (matchAt pos).isSome = true →
          Live.ExactlyOne ((spansOf y).StartsAt pos) ((spansOf y).Around pos)
            ((spansOf y).StopsBefore 2 pos) := by
  refine ⟨_, _, rfl, rfl, rfl, ?engine, iterMatches_accounts rfl rfl ?engine⟩
  refine ⟨?_, ?_⟩
  · intro pos found h
    split_ifs at h with hpos
    obtain rfl : Match.mk pos pos [] = found := by simpa using h
    exact ⟨rfl, Nat.le_refl _, by rcases hpos with rfl | rfl <;> decide⟩
  · intro pos hpos
    match pos, hpos with
    | 0, _ => rfl
    | 1, _ => rfl
    | 2, _ => rfl

end LivePattern

end ProblemMatcher
