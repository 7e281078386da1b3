import Mathlib
import ProblemMatcher.Text.Position

/-!
# Positions in a text

Where lines start is found out once for a text, and the line of a place is then looked up by halving
the list of starts. What comes out is what a reader counts: the line feeds in front of the place,
and the characters between the last of them and the place.

1. `countUpTo_append`: halving finds where the members above a number begin.
2. `lineStarts_append`: the starts up to the line of a place, and those behind the place.
3. `positionAt_append`, `isAt_positionAt`: every place of a text, its end included, is given its
   position.
-/

namespace ProblemMatcher.Text

/-! ## Halving -/

section

variable {low high : List Nat} {n : Nat}

theorem getD_le_iff (hlow : ∀ b ∈ low, b ≤ n) (hhigh : ∀ b ∈ high, n < b) {i : Nat}
    (hi : i < (low ++ high).length) :
    (low ++ high).toArray.getD i 0 ≤ n ↔ i < low.length := by
  have hget : (low ++ high).toArray.getD i 0 = (low ++ high)[i] := by
    rw [Array.getD_eq_getD_getElem?, List.getElem?_toArray, List.getElem?_eq_getElem hi,
      Option.getD_some]
  rw [hget, List.getElem_append]
  split_ifs with hlt
  · exact ⟨fun _ => hlt, fun _ => hlow _ (List.getElem_mem hlt)⟩
  · have hmem := hhigh _ (List.getElem_mem (l := high) (n := i - low.length) (by
      rw [List.length_append] at hi
      omega))
    omega

/-- The place between the members up to a number and those above stays between the two ends. -/
theorem countUpToIn_append (hlow : ∀ b ∈ low, b ≤ n) (hhigh : ∀ b ∈ high, n < b)
    {rounds lo hi : Nat} (hlo : lo ≤ low.length) (hle : low.length ≤ hi)
    (hhi : hi ≤ (low ++ high).length) (hrounds : hi - lo ≤ rounds) :
    countUpToIn (low ++ high).toArray n rounds lo hi = low.length := by
  induction rounds generalizing lo hi with
  | zero =>
    rw [countUpToIn]
    omega
  | succ rounds ih =>
    rw [countUpToIn]
    split_ifs with hlt
    · have hmid := getD_le_iff hlow hhigh (i := (lo + hi) / 2) (by omega)
      dsimp only
      split_ifs with hup
      · exact ih (hmid.mp hup) hle hhi (by omega)
      · have hover : low.length ≤ (lo + hi) / 2 := Nat.le_of_not_lt fun h => hup (hmid.mpr h)
        exact ih hlo hover (by omega) (by omega)
    · omega

/-- Halving counts the members up to a number, if those above come after them. -/
theorem countUpTo_append (hlow : ∀ b ∈ low, b ≤ n) (hhigh : ∀ b ∈ high, n < b) :
    countUpTo (low ++ high).toArray n = low.length := by
  refine countUpToIn_append hlow hhigh (Nat.zero_le _) ?_ ?_ ?_ <;> simp

end

/-! ## Where lines start -/

theorem startsAfterBreaks_append (place : Nat) (first second : List Char) :
    startsAfterBreaks place (first ++ second) =
      startsAfterBreaks place first ++ startsAfterBreaks (place + first.length) second := by
  induction first generalizing place with
  | nil => rfl
  | cons c rest ih =>
    rw [List.cons_append, startsAfterBreaks, startsAfterBreaks, List.length_cons, ih,
      Nat.add_right_comm, Nat.add_assoc]
    split_ifs <;> rfl

theorem mem_startsAfterBreaks {place start : Nat} {text : List Char}
    (h : start ∈ startsAfterBreaks place text) : place < start ∧ start ≤ place + text.length := by
  induction text generalizing place with
  | nil => cases h
  | cons c rest ih =>
    rw [startsAfterBreaks] at h
    have hrest : start ∈ startsAfterBreaks (place + 1) rest →
        place < start ∧ start ≤ place + (c :: rest).length := by
      intro h
      obtain ⟨hlt, hle⟩ := ih h
      rw [List.length_cons]
      omega
    split_ifs at h
    · rcases List.mem_cons.mp h with rfl | h
      · rw [List.length_cons]
        omega
      · exact hrest h
    · exact hrest h

theorem startsAfterBreaks_of_not_mem {line : List Char} (h : '\n' ∉ line) (place : Nat) :
    startsAfterBreaks place line = [] := by
  induction line generalizing place with
  | nil => rfl
  | cons c rest ih =>
    rw [List.mem_cons, not_or] at h
    rw [startsAfterBreaks, if_neg (Ne.symm h.1), ih h.2]

theorem length_startsAfterBreaks (place : Nat) (text : List Char) :
    (startsAfterBreaks place text).length = text.count '\n' := by
  induction text generalizing place with
  | nil => rfl
  | cons c rest ih =>
    rw [startsAfterBreaks, List.count_cons]
    split_ifs with hc hc' hc'
    · rw [List.length_cons, ih]
    · exact absurd (beq_iff_eq.mpr hc) hc'
    · exact absurd (beq_iff_eq.mp hc') hc
    · rw [ih, Nat.add_zero]

/-! ## Positions -/

/-- All that comes before a place and not on its line: nothing, or a text that ends with a line
feed. -/
def IsLines (before : List Char) : Prop :=
  ∀ c ∈ before.getLast?, c = '\n'

/-- The position of a place as a reader counts it: the line feeds before it, and the characters
between the last of them and the place. -/
def Position.IsAt (p : Position) (text : List Char) (place : Nat) : Prop :=
  ∃ before line after, text = before ++ (line ++ after) ∧ place = before.length + line.length ∧
    IsLines before ∧ '\n' ∉ line ∧ p = ⟨before.count '\n', line.length⟩

/-- Every place is on a line. -/
theorem exists_line (text : List Char) :
    ∃ before line, text = before ++ line ∧ IsLines before ∧ '\n' ∉ line := by
  induction text using List.reverseRecOn with
  | nil => exact ⟨[], [], rfl, nofun, nofun⟩
  | append_singleton text c ih =>
    obtain ⟨before, line, rfl, hbefore, hline⟩ := ih
    by_cases hc : c = '\n'
    · subst hc
      exact ⟨before ++ line ++ ['\n'], [], by simp, by simp [IsLines], nofun⟩
    · refine ⟨before, line ++ [c], by simp, hbefore, ?_⟩
      simpa [hline] using Ne.symm hc

/-- The lines before a place start no later than its own, which starts right behind them. -/
theorem starts_of_isLines {before : List Char} (h : IsLines before) :
    (∀ b ∈ 0 :: startsAfterBreaks 0 before, b ≤ before.length) ∧
      (0 :: startsAfterBreaks 0 before).getLast? = some before.length := by
  constructor
  · intro b hb
    rcases List.mem_cons.mp hb with rfl | hb
    · exact Nat.zero_le _
    · simpa using (mem_startsAfterBreaks hb).2
  · rcases List.eq_nil_or_concat before with rfl | ⟨rest, c, rfl⟩
    · rfl
    · obtain rfl : c = '\n' := h c (by simp)
      rw [List.concat_eq_append, startsAfterBreaks_append, startsAfterBreaks, if_pos rfl,
        startsAfterBreaks, ← List.cons_append, List.getLast?_concat, List.length_append,
        Nat.zero_add]
      rfl

section

variable {before line : List Char}

/-- The lines up to that of a place start in front of it, and the others behind it. -/
theorem lineStarts_append (hline : '\n' ∉ line) (after : List Char) :
    lineStarts (before ++ (line ++ after)) = (0 :: startsAfterBreaks 0 before) ++
      startsAfterBreaks (before.length + line.length) after := by
  rw [lineStarts, startsAfterBreaks_append, startsAfterBreaks_append,
    startsAfterBreaks_of_not_mem hline, Nat.zero_add]
  rfl

/-- A line starts right behind the lines before it. -/
theorem lineStarts_getElem? (hbefore : IsLines before) (hline : '\n' ∉ line) (after : List Char) :
    (lineStarts (before ++ (line ++ after)))[before.count '\n']? = some before.length := by
  have hlast := (starts_of_isLines hbefore).2
  rw [List.getLast?_eq_getElem?, List.length_cons, length_startsAfterBreaks,
    Nat.add_sub_cancel] at hlast
  rw [lineStarts_append hline,
    List.getElem?_append_left (List.getElem?_eq_some_iff.mp hlast).1, hlast]

/-- A place is on the last line that starts in front of it, be it in the text or not. -/
theorem positionAt_of_starts (hbefore : IsLines before) (hline : '\n' ∉ line) {after : List Char}
    {place : Nat} (hplace : before.length ≤ place)
    (hafter : ∀ b ∈ startsAfterBreaks (before.length + line.length) after, place < b) :
    positionAt (before ++ (line ++ after)) place =
      ⟨before.count '\n', (place : Int) - before.length⟩ := by
  have hcount : countUpTo (lineStarts (before ++ (line ++ after))).toArray place =
      before.count '\n' + 1 := by
    rw [lineStarts_append hline,
      countUpTo_append (fun b hb => ((starts_of_isLines hbefore).1 b hb).trans hplace) hafter,
      List.length_cons, length_startsAfterBreaks]
  have hstart : (lineStarts (before ++ (line ++ after))).toArray.getD (before.count '\n') 0 =
      before.length := by
    rw [Array.getD_eq_getD_getElem?, List.getElem?_toArray, lineStarts_getElem? hbefore hline,
      Option.getD_some]
  rw [positionAt, positionIn, if_neg (Int.not_lt.mpr (Int.natCast_nonneg _))]
  simp only [Int.toNat_natCast, hcount, Nat.add_sub_cancel, hstart]

theorem positionAt_append (hbefore : IsLines before) (hline : '\n' ∉ line) (after : List Char) :
    positionAt (before ++ (line ++ after)) ↑(before.length + line.length) =
      ⟨before.count '\n', line.length⟩ := by
  rw [positionAt_of_starts hbefore hline (Nat.le_add_right _ _)
    fun b hb => (mem_startsAfterBreaks hb).1, Position.mk.injEq]
  omega

end

/-- **The position of a place is what a reader counts**, up to the end of the text. -/
theorem isAt_positionAt {text : List Char} {place : Nat} (h : place ≤ text.length) :
    (positionAt text place).IsAt text place := by
  obtain ⟨before, line, hsplit, hbefore, hline⟩ := exists_line (text.take place)
  have htext : text = before ++ (line ++ text.drop place) := by
    rw [← List.append_assoc, ← hsplit, List.take_append_drop]
  have hplace : place = before.length + line.length := by
    rw [← List.length_append, ← hsplit, List.length_take_of_le h]
  refine ⟨before, line, text.drop place, htext, hplace, hbefore, hline, ?_⟩
  calc positionAt text place
      = positionAt (before ++ (line ++ text.drop place)) ↑(before.length + line.length) := by
        rw [← htext, ← hplace]
    _ = ⟨before.count '\n', line.length⟩ := positionAt_append hbefore hline _

end ProblemMatcher.Text
