import ProblemMatcher.Proofs.Live.Coverage
import ProblemMatcher.Proofs.Live.Normalize

/-!
# The loop ends

The loop over all matches is given here without a bound, as a relation: a run searches from one
place after another until a search finds nothing or a step leads nowhere. If every search looks
ahead, each step leaves less of the text, so there is a run from every place, and it is the only
one. What `iterate` yields is that run, and its bound never cuts it short.

1. `Runs`: the places searched from and the matches found, however many.
2. `Bounded.cons`, `Runs.bounded`: what one step adds, and what a whole run keeps to.
3. `iterateFrom_runs`: the loop with a bound makes the run.
4. `LivePattern.iterMatches_bounded`: the same for a live pattern and its text.
-/

namespace ProblemMatcher

namespace Live

open Regex (Match)

/-! ## Runs -/

/-- From each place of a text of the given size, the search finds nothing or a match that lies
between that place and the end. -/
def SearchesAhead (search : Search) (size : Nat) : Prop :=
  ∀ pos ≤ size, ∃ found?, search pos = .ok found? ∧
    ∀ found ∈ found?, pos ≤ found.start ∧ found.start ≤ found.stop ∧ found.stop ≤ size

/-- A run of the loop from a place on: where it searched from, and what it found. -/
inductive Runs (search : Search) (size : Nat) (isGlobal : Bool) :
    Nat → List Nat → List Match → Prop
  | nothing {cursor : Nat} (h : search cursor = .ok none) :
    Runs search size isGlobal cursor [cursor] []
  | last {cursor : Nat} {found : Match} (h : search cursor = .ok (some found))
    (hend : isGlobal = true → nextCursor size found = none) :
    Runs search size isGlobal cursor [cursor] [found]
  | more {cursor next : Nat} {found : Match} {cursors : List Nat} {rest : List Match}
    (h : search cursor = .ok (some found)) (hglobal : isGlobal = true)
    (hnext : nextCursor size found = some next)
    (hrest : Runs search size isGlobal next cursors rest) :
    Runs search size isGlobal cursor (cursor :: cursors) (found :: rest)

section

variable {search : Search} {size : Nat} {isGlobal : Bool} {cursor : Nat}
variable {cursors cursors' : List Nat} {found found' : List Match}

/-- The loop has one run from a place. -/
theorem Runs.unique (h : Runs search size isGlobal cursor cursors found)
    (h' : Runs search size isGlobal cursor cursors' found') :
    cursors' = cursors ∧ found' = found := by
  induction h generalizing cursors' found' with
  | nothing h =>
    cases h' with
    | nothing => exact ⟨rfl, rfl⟩
    | last hs | more hs =>
      rw [h] at hs
      cases hs
  | last h hend =>
    cases h' with
    | nothing hs =>
      rw [h] at hs
      cases hs
    | last hs =>
      rw [h] at hs
      cases hs
      exact ⟨rfl, rfl⟩
    | more hs hglobal hnext =>
      rw [h] at hs
      cases hs
      rw [hend hglobal] at hnext
      cases hnext
  | more h hglobal hnext _ ih =>
    cases h' with
    | nothing hs =>
      rw [h] at hs
      cases hs
    | last hs hend =>
      rw [h] at hs
      cases hs
      rw [hend hglobal] at hnext
      cases hnext
    | more hs _ hnext' hrest' =>
      rw [h] at hs
      cases hs
      rw [hnext] at hnext'
      cases hnext'
      obtain ⟨rfl, rfl⟩ := ih hrest'
      exact ⟨rfl, rfl⟩

/-- Without looking for all matches, a run is one search. -/
theorem Runs.first (h : Runs search size isGlobal cursor cursors found)
    (hfirst : isGlobal = false) :
    ∃ first?, search cursor = .ok first? ∧ found = first?.toList := by
  cases h with
  | nothing h => exact ⟨none, h, rfl⟩
  | last h => exact ⟨_, h, rfl⟩
  | more _ hglobal =>
    rw [hfirst] at hglobal
    cases hglobal

/-! ## Bounds -/

/-- What a run from a place on keeps to. -/
structure Bounded (size cursor : Nat) (cursors : List Nat) (found : List Match) : Prop where
  cursor_le : ∀ c ∈ cursors, c ≤ size
  length_le : found.length ≤ size + 1 - cursor
  within : ∀ m ∈ found, cursor ≤ m.start ∧ m.start ≤ m.stop ∧ m.stop ≤ size
  inOrder : Spans.InOrder (found.map spanOf)
  /-- A run over empty matches stops in front of the end of the text. -/
  empty : (∀ m ∈ found, m.start = m.stop) → found.length ≤ max 1 (size - cursor)

theorem bounded_nil (hc : cursor ≤ size) : Bounded size cursor [cursor] [] where
  cursor_le := by simpa using hc
  length_le := Nat.zero_le _
  within := nofun
  inOrder := .nil
  empty _ := Nat.zero_le _

theorem bounded_singleton {m : Match} (hc : cursor ≤ size) (hpos : cursor ≤ m.start)
    (hle : m.start ≤ m.stop) (hsize : m.stop ≤ size) : Bounded size cursor [cursor] [m] where
  cursor_le := by simpa using hc
  length_le := by
    rw [List.length_singleton]
    omega
  within := by simpa using ⟨hpos, hle, hsize⟩
  inOrder := List.pairwise_singleton _ _
  empty _ := Nat.le_max_left _ _

/-- A match in front of a run from the next place on. -/
theorem Bounded.cons {next : Nat} {m : Match} (hc : cursor ≤ size) (hpos : cursor ≤ m.start)
    (hle : m.start ≤ m.stop) (hsize : m.stop ≤ size) (hnext : nextCursor size m = some next)
    (h : Bounded size next cursors found) :
    Bounded size cursor (cursor :: cursors) (m :: found) := by
  obtain ⟨hlt, hnextsize, hstop, -⟩ := nextCursor_some hle hsize hnext
  refine ⟨?_, ?_, ?_, ?_, ?_⟩
  · intro c hmem
    rcases List.mem_cons.mp hmem with rfl | hmem
    · exact hc
    · exact h.cursor_le c hmem
  · have hlength := h.length_le
    rw [List.length_cons]
    omega
  · intro m' hmem
    rcases List.mem_cons.mp hmem with rfl | hmem
    · exact ⟨hpos, hle, hsize⟩
    · obtain ⟨hstart, hrest⟩ := h.within m' hmem
      exact ⟨by omega, hrest⟩
  · refine List.pairwise_cons.mpr ⟨?_, h.inOrder⟩
    intro s hs
    obtain ⟨m', hmem, rfl⟩ := List.mem_map.mp hs
    have hstart := (h.within m' hmem).1
    simp only [spanOf]
    omega
  · intro hempty
    have hrest := h.empty fun m' hmem => hempty m' (List.mem_cons_of_mem _ hmem)
    have hm := hempty m List.mem_cons_self
    -- the step over an empty match does not reach the end of the text
    have hinner : next < size := by
      unfold nextCursor at hnext
      split_ifs at hnext with heq hlt'
      · cases hnext
        exact hlt'
      · exact absurd hm.symm heq
    rw [List.length_cons]
    omega

theorem Runs.bounded (hs : SearchesAhead search size) (hc : cursor ≤ size)
    (h : Runs search size isGlobal cursor cursors found) : Bounded size cursor cursors found := by
  have hahead : ∀ {cursor m}, cursor ≤ size → search cursor = .ok (some m) →
      cursor ≤ m.start ∧ m.start ≤ m.stop ∧ m.stop ≤ size := by
    intro cursor m hc hm
    obtain ⟨found?, hsearch, hfound⟩ := hs cursor hc
    rw [hm] at hsearch
    cases hsearch
    exact hfound m rfl
  induction h with
  | nothing => exact bounded_nil hc
  | last hm =>
    obtain ⟨hpos, hle, hsize⟩ := hahead hc hm
    exact bounded_singleton hc hpos hle hsize
  | more hm _ hnext _ ih =>
    obtain ⟨hpos, hle, hsize⟩ := hahead hc hm
    obtain ⟨-, hnextsize, -, -⟩ := nextCursor_some hle hsize hnext
    exact (ih hnextsize).cons hc hpos hle hsize hnext

/-! ## The loop with a bound -/

/-- Each step leaves less text than the bound allows for. -/
theorem iterateFrom_runs (isGlobal : Bool) (hs : SearchesAhead search size) (bound : Nat)
    (hc : cursor ≤ size) (hbound : size + 1 - cursor ≤ bound) :
    (iterateFrom search size isGlobal bound cursor).fault = none ∧
      ∃ cursors, Runs search size isGlobal cursor cursors
        (iterateFrom search size isGlobal bound cursor).found := by
  induction bound generalizing cursor with
  | zero => omega
  | succ bound ih =>
    obtain ⟨found?, hsearch, hfound⟩ := hs cursor hc
    rw [iterateFrom, hsearch]
    cases found? with
    | none => exact ⟨rfl, [cursor], .nothing hsearch⟩
    | some m =>
      obtain ⟨hpos, hle, hsize⟩ := hfound m rfl
      cases isGlobal with
      | false => exact ⟨rfl, [cursor], .last hsearch fun h => absurd h Bool.false_ne_true⟩
      | true =>
        cases hnext : nextCursor size m with
        | none =>
          simp only [hnext]
          exact ⟨rfl, [cursor], .last hsearch fun _ => hnext⟩
        | some next =>
          obtain ⟨hlt, hnextsize, -, -⟩ := nextCursor_some hle hsize hnext
          obtain ⟨hfault, cursors, hruns⟩ := ih hnextsize (by omega)
          simp only [hnext]
          exact ⟨hfault, cursor :: cursors, .more hsearch rfl hnext hruns⟩

end

/-- What the spans of all matches in a text of the given size keep to. -/
structure Spans.IsBounded (spans : Spans) (size : Nat) : Prop where
  length_le : spans.length ≤ size + 1
  within : ∀ s ∈ spans, s.1 ≤ s.2 ∧ s.2 ≤ size
  inOrder : spans.InOrder
  empty : (∀ s ∈ spans, s.1 = s.2) → spans.length ≤ max 1 size

theorem Bounded.spans {size : Nat} {cursors : List Nat} {found : List Match}
    (h : Bounded size 0 cursors found) : Spans.IsBounded (found.map spanOf) size where
  length_le := by
    rw [List.length_map]
    exact h.length_le
  within := by
    intro s hs
    obtain ⟨m, hm, rfl⟩ := List.mem_map.mp hs
    exact (h.within m hm).2
  inOrder := h.inOrder
  empty hempty := by
    rw [List.length_map]
    exact h.empty fun m hm => hempty (spanOf m) (List.mem_map_of_mem hm)

end Live

/-! ## Live patterns -/

namespace LivePattern

open Regex (Match)

/-- **The loop ends.** A live pattern can be normalized, and if the searches of what it becomes look
ahead, its matches are those of the one run of the loop. No search starts behind the end of the
text. The spans are within the text, in order and disjoint, at most one more than there are
characters, and at most as many as there are characters if all are empty and the text is not. A
pattern that does not look for all matches yields the first match of the engine and no other. -/
theorem iterMatches_bounded [Engine] {p : LivePattern} {text : Array Char} {inject : Bool}
    (hp : p.regex.IsCompiled)
    (hengine : ∀ q, p.normalize inject = .ok q →
      Live.SearchesAhead (fun pos => q.regex.search text pos) text.size) :
    ∃ q y cursors found, p.normalize inject = .ok q ∧ p.iterMatches text inject = .ok y ∧
      y.fault = none ∧ y.found = found.map (q.itemOf text) ∧
      Live.Runs (fun pos => q.regex.search text pos) text.size q.isGlobal 0 cursors found ∧
      (∀ cursor ∈ cursors, cursor ≤ text.size) ∧ (spansOf y).IsBounded text.size ∧
      (q.isGlobal = false → ∃ first?, q.regex.search text 0 = .ok first? ∧
        found = first?.toList) := by
  obtain ⟨q, hq⟩ := exists_normalize hp inject
  obtain ⟨hfault, cursors, hruns⟩ := Live.iterateFrom_runs q.isGlobal (hengine q hq)
    (text.size + 1) (Nat.zero_le _) (Nat.le_refl _)
  have hbounded := hruns.bounded (hengine q hq) (Nat.zero_le _)
  refine ⟨q, q.allMatches text, cursors, _, hq, ?_, hfault, q.found_allMatches text, hruns,
    hbounded.cursor_le, ?_, ?_⟩
  · rw [iterMatches, hq]
    rfl
  · rw [spansOf_allMatches]
    exact hbounded.spans
  · exact hruns.first

/-- Runs of `x` in a text of two characters: an empty one in front of the first character, the
second character, and an empty one at the end. -/
theorem iterMatches_bounded_emptyEnds :
    ∃ p : LivePattern, ofSource "x*" = .ok (some p) ∧ p.regex.IsCompiled ∧
      (∀ q, p.normalize true = .ok q →
        Live.SearchesAhead (fun pos => q.regex.search #['a', 'x'] pos) 2) ∧
      ∃ q y cursors found, p.normalize true = .ok q ∧
        p.iterMatches #['a', 'x'] true = .ok y ∧
        y.fault = none ∧ y.found = found.map (q.itemOf #['a', 'x']) ∧
        Live.Runs (fun pos => q.regex.search #['a', 'x'] pos) 2 q.isGlobal 0 cursors found ∧
        (∀ cursor ∈ cursors, cursor ≤ 2) ∧ (spansOf y).IsBounded 2 ∧
        (q.isGlobal = false → ∃ first?, q.regex.search #['a', 'x'] 0 = .ok first? ∧
          found = first?.toList) := by
  have hengine : ∀ p : LivePattern, ofSource "x*" = .ok (some p) → ∀ q, p.normalize true = .ok q →
      Live.SearchesAhead (fun pos => q.regex.search #['a', 'x'] pos) 2 := by
    intro p hp q hq pos hpos
    cases hp
    cases hq
    match pos, hpos with
    | 0, _ => exact ⟨some ⟨0, 0, []⟩, rfl, by simp⟩
    | 1, _ => exact ⟨some ⟨1, 2, []⟩, rfl, by simp⟩
    | 2, _ => exact ⟨some ⟨2, 2, []⟩, rfl, by simp⟩
  have hcompiled : ∀ p : LivePattern, ofSource "x*" = .ok (some p) → p.regex.IsCompiled :=
    fun _ => isCompiled_of_ofSource
  exact ⟨_, rfl, hcompiled _ rfl, hengine _ rfl,
    iterMatches_bounded (hcompiled _ rfl) (hengine _ rfl)⟩

end LivePattern

end ProblemMatcher
