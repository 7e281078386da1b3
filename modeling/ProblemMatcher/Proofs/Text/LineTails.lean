import Mathlib
import ProblemMatcher.Text.Lines

/-!
# Where lines start

A text is cut into lines character by character. Here the lines are told by what is left of the text
where each of them starts, its tail: a line is its tail up to the first break, and a tail is known
by what stands in front of it.

1. `splitLines_eq_map_lineTails`: the lines are the tails, each up to its first break.
2. `cons_mem_lineTails`: a tail is behind the start of the text or behind a break.
3. `pairwise_lineTails`: each tail starts behind the lines before it.
4. `splitLines_intercalate`: lines put together with line feeds are found again, but for an empty
   last one.
-/

namespace ProblemMatcher.Text

variable {isBreak : Char → Bool}

/-- A character starts a line behind another one, or behind nothing. -/
def startsLine (isBreak : Char → Bool) : Option Char → Char → Bool
  | none, _ => true
  | some before, c => isBreak before && !(before == '\r' && c == '\n')

theorem isBreak_of_startsLine {before : Option Char} {c : Char}
    (h : startsLine isBreak before c = true) : ∀ b ∈ before, isBreak b = true := by
  rintro b rfl
  simp [startsLine] at h
  exact h.1

theorem startsLine_of_ne_lineFeed {before : Option Char} {c : Char} (hc : c ≠ '\n')
    (h : ∀ b ∈ before, isBreak b = true) : startsLine isBreak before c = true := by
  cases before with
  | none => rfl
  | some b => simp [startsLine, h b rfl, hc]

/-- The text from the start of each line on, where a character stands in front. -/
def lineTailsFrom (isBreak : Char → Bool) : Option Char → List Char → List (List Char)
  | _, [] => []
  | before, c :: s =>
    if startsLine isBreak before c then (c :: s) :: lineTailsFrom isBreak (some c) s
    else lineTailsFrom isBreak (some c) s

def lineTails (isBreak : Char → Bool) (text : List Char) : List (List Char) :=
  lineTailsFrom isBreak none text

/-- The line at the front of a text. -/
def frontLine (isBreak : Char → Bool) (s : List Char) : List Char :=
  s.takeWhile fun c => !isBreak c

/-! ## Lines from tails -/

theorem frontLine_of_break {c : Char} (hc : isBreak c = true) (s : List Char) :
    frontLine isBreak (c :: s) = [] := by
  simp [frontLine, hc]

theorem frontLine_of_not_break {c : Char} (hc : ¬isBreak c = true) (s : List Char) :
    frontLine isBreak (c :: s) = c :: frontLine isBreak s := by
  simp [frontLine, hc]

theorem frontLine_append {line : List Char} (h : ∀ c ∈ line, ¬isBreak c = true) (s : List Char) :
    frontLine isBreak (line ++ s) = line ++ frontLine isBreak s := by
  unfold frontLine
  exact List.takeWhile_append_of_pos (by simpa using h)

theorem splitLinesFrom_cons_of_not_break {c : Char} (hc : ¬isBreak c = true) (read s : List Char) :
    splitLinesFrom isBreak read (c :: s) = splitLinesFrom isBreak (c :: read) s := by
  cases s <;> simp [splitLinesFrom, hc]

theorem splitLinesFrom_of_line {line : List Char} (h : ∀ c ∈ line, ¬isBreak c = true)
    (read s : List Char) :
    splitLinesFrom isBreak read (line ++ s) = splitLinesFrom isBreak (line.reverse ++ read) s := by
  induction line generalizing read with
  | nil => rfl
  | cons c line ih =>
    simp only [List.forall_mem_cons] at h
    rw [List.cons_append, splitLinesFrom_cons_of_not_break h.1, ih h.2]
    simp

/-- Inside a line, no line starts before the next break. -/
theorem lineTailsFrom_of_not_break {before : Char} (hb : ¬isBreak before = true) (c : Char)
    (s : List Char) : lineTailsFrom isBreak (some before) (c :: s) =
      lineTailsFrom isBreak (some c) s := by
  simp [lineTailsFrom, startsLine, hb]

/-- What has been read of a line fits what stands in front of the rest: at the start of a line
nothing has been read, and inside one the last character read is no break. -/
structure FitsAt (isBreak : Char → Bool) (read : List Char) (before : Option Char)
    (s : List Char) : Prop where
  start : read = [] → ∀ c ∈ s.head?, startsLine isBreak before c = true
  inside : read ≠ [] → ∃ b, before = some b ∧ ¬isBreak b = true

/-- The line of which some has been read, if any has, and the lines behind it. -/
def linesByTails (isBreak : Char → Bool) (read : List Char) (before : Option Char)
    (s : List Char) : List (List Char) :=
  (if read = [] then [] else [read.reverse ++ frontLine isBreak s]) ++
    (lineTailsFrom isBreak before s).map (frontLine isBreak)

theorem FitsAt.of_break {b : Char} (hb : isBreak b = true) {s : List Char}
    (hpair : ¬(b = '\r' ∧ s.head? = some '\n')) : FitsAt isBreak [] (some b) s where
  start _ c hc := by
    by_cases hr : b = '\r'
    · have hn : c ≠ '\n' := by rintro rfl; exact hpair ⟨hr, hc⟩
      simp [startsLine, hb, hn]
    · simp [startsLine, hb, hr]
  inside h := absurd rfl h

theorem FitsAt.of_not_break {c : Char} (hc : ¬isBreak c = true) (read s : List Char) :
    FitsAt isBreak (c :: read) (some c) s :=
  ⟨nofun, fun _ => ⟨c, rfl, hc⟩⟩

theorem linesByTails_of_break {read s : List Char} {before : Option Char} {c : Char}
    (hc : isBreak c = true) (h : FitsAt isBreak read before (c :: s)) :
    linesByTails isBreak read before (c :: s) =
      read.reverse :: linesByTails isBreak [] (some c) s := by
  by_cases hread : read = []
  · subst hread
    simp [linesByTails, lineTailsFrom, h.start rfl c rfl, frontLine_of_break hc]
  · obtain ⟨b, rfl, hb⟩ := h.inside hread
    simp [linesByTails, hread, lineTailsFrom_of_not_break hb, frontLine_of_break hc]

theorem linesByTails_of_not_break {read s : List Char} {before : Option Char} {c : Char}
    (hc : ¬isBreak c = true) (h : FitsAt isBreak read before (c :: s)) :
    linesByTails isBreak read before (c :: s) = linesByTails isBreak (c :: read) (some c) s := by
  by_cases hread : read = []
  · subst hread
    simp [linesByTails, lineTailsFrom, h.start rfl c rfl, frontLine_of_not_break hc]
  · obtain ⟨b, rfl, hb⟩ := h.inside hread
    simp [linesByTails, hread, lineTailsFrom_of_not_break hb, frontLine_of_not_break hc]

theorem splitLinesFrom_eq_linesByTails (hlf : isBreak '\n' = true) {read s : List Char}
    {before : Option Char} (h : FitsAt isBreak read before s) :
    splitLinesFrom isBreak read s = linesByTails isBreak read before s := by
  fun_induction splitLinesFrom isBreak read s generalizing before with
  | case1 read hread => simp [linesByTails, List.isEmpty_iff.mp hread, lineTailsFrom]
  | case2 read hread =>
    have hread : read ≠ [] := by simpa using hread
    simp [linesByTails, hread, lineTailsFrom, frontLine]
  | case3 read c hc =>
    rw [linesByTails_of_break hc h]
    rfl
  | case4 read c hc =>
    rw [linesByTails_of_not_break hc h]
    simp [linesByTails, lineTailsFrom, frontLine]
  | case5 read c d rest hc hpair ih =>
    obtain ⟨rfl, rfl⟩ := hpair
    -- no line starts between the two characters of one break
    have hskip : linesByTails isBreak [] (some '\r') ('\n' :: rest) =
        linesByTails isBreak [] (some '\n') rest := by
      simp [linesByTails, lineTailsFrom, startsLine]
    rw [linesByTails_of_break hc h, hskip, ih (.of_break hlf (by simp))]
  | case6 read c d rest hc hpair ih =>
    rw [linesByTails_of_break hc h, ih (.of_break hc (by simpa using hpair))]
  | case7 read c d rest hc ih =>
    rw [linesByTails_of_not_break hc h, ih (.of_not_break hc read _)]

theorem splitLines_eq_map_lineTails (hlf : isBreak '\n' = true) (text : List Char) :
    splitLines isBreak text = (lineTails isBreak text).map (frontLine isBreak) := by
  have h : FitsAt isBreak [] none text := ⟨fun _ _ _ => rfl, fun h => absurd rfl h⟩
  simpa [linesByTails, splitLines, lineTails] using splitLinesFrom_eq_linesByTails hlf h

/-! ## Lines put together -/

theorem splitLinesFrom_lineFeed (hlf : isBreak '\n' = true) (read s : List Char) :
    splitLinesFrom isBreak read ('\n' :: s) = read.reverse :: splitLinesFrom isBreak [] s := by
  cases s <;> simp [splitLinesFrom, hlf]

theorem splitLines_intercalate (hlf : isBreak '\n' = true) {lines : List (List Char)}
    (h : ∀ line ∈ lines, ∀ c ∈ line, ¬isBreak c = true) :
    lines = splitLines isBreak (['\n'].intercalate lines) ∨
      lines = splitLines isBreak (['\n'].intercalate lines) ++ [[]] := by
  induction lines with
  | nil => exact .inl rfl
  | cons line rest ih =>
    simp only [List.forall_mem_cons] at h
    have hread := splitLinesFrom_of_line h.1 []
    cases rest with
    | nil =>
      have hsplit : splitLines isBreak line = if line = [] then [] else [line] := by
        simpa [splitLines, splitLinesFrom] using hread []
      rw [List.intercalate_singleton, hsplit]
      by_cases hline : line = [] <;> simp [hline]
    | cons next rest =>
      have hsplit : splitLines isBreak (['\n'].intercalate (line :: next :: rest)) =
          line :: splitLines isBreak (['\n'].intercalate (next :: rest)) := by
        simp [List.intercalate_cons_cons, splitLines, hread, splitLinesFrom_lineFeed hlf]
      rw [hsplit]
      exact (ih h.2).imp (congrArg (line :: ·)) (congrArg (line :: ·))

/-- A line is found among those of the text that lines make, unless it is empty. -/
theorem splitLines_intercalate_getElem? (hlf : isBreak '\n' = true) {lines : List (List Char)}
    (h : ∀ line ∈ lines, ∀ c ∈ line, ¬isBreak c = true) {i : Nat} {line : List Char}
    (hi : lines[i]? = some line) (hline : line ≠ []) :
    (splitLines isBreak (['\n'].intercalate lines))[i]? = some line := by
  obtain heq | heq := splitLines_intercalate hlf h
  · rwa [← heq]
  · rw [heq] at hi
    obtain hlt | hge := Nat.lt_or_ge i (splitLines isBreak (['\n'].intercalate lines)).length
    · rwa [List.getElem?_append_left hlt] at hi
    · rw [List.getElem?_append_right hge] at hi
      have := List.mem_of_getElem? hi
      simp [hline] at this

/-! ## Which tails there are -/

theorem mem_lineTailsFrom_cons {before : Option Char} {c : Char} {s tail : List Char} :
    tail ∈ lineTailsFrom isBreak before (c :: s) ↔
      tail = c :: s ∧ startsLine isBreak before c = true ∨
        tail ∈ lineTailsFrom isBreak (some c) s := by
  rw [lineTailsFrom]
  split <;> simp_all

theorem isSuffix_of_mem_lineTailsFrom {before : Option Char} {s tail : List Char}
    (h : tail ∈ lineTailsFrom isBreak before s) : tail <:+ s := by
  induction s generalizing before with
  | nil => cases h
  | cons c s ih =>
    obtain ⟨rfl, -⟩ | h := mem_lineTailsFrom_cons.mp h
    · exact List.suffix_refl _
    · exact (ih h).trans (List.suffix_cons c s)

theorem cons_mem_lineTailsFrom {before : Option Char} {s tail : List Char} {c : Char} :
    c :: tail ∈ lineTailsFrom isBreak before s ↔
      ∃ earlier, s = earlier ++ c :: tail ∧
        startsLine isBreak (earlier.getLast?.or before) c = true := by
  induction s generalizing before with
  | nil => simp [lineTailsFrom]
  | cons d s ih =>
    rw [mem_lineTailsFrom_cons, ih]
    constructor
    · rintro (⟨heq, h⟩ | ⟨earlier, rfl, h⟩)
      · cases heq
        exact ⟨[], rfl, h⟩
      · exact ⟨d :: earlier, rfl, by simpa [List.getLast?_cons] using h⟩
    · rintro ⟨_ | ⟨d, earlier⟩, heq, h⟩
      · cases heq
        exact .inl ⟨rfl, h⟩
      · cases heq
        exact .inr ⟨earlier, rfl, by simpa [List.getLast?_cons] using h⟩

theorem cons_mem_lineTails {text tail : List Char} {c : Char} :
    c :: tail ∈ lineTails isBreak text ↔
      ∃ earlier, text = earlier ++ c :: tail ∧ startsLine isBreak earlier.getLast? c = true := by
  simp [lineTails, cons_mem_lineTailsFrom]

/-- Inside a line, the next tail is behind what is left of it. -/
theorem lt_of_mem_lineTailsFrom {before : Char} (hb : ¬isBreak before = true) {s tail : List Char}
    (h : tail ∈ lineTailsFrom isBreak (some before) s) :
    tail.length + (frontLine isBreak s).length < s.length := by
  induction s generalizing before with
  | nil => cases h
  | cons c s ih =>
    rw [lineTailsFrom_of_not_break hb] at h
    by_cases hc : isBreak c = true
    · have := (isSuffix_of_mem_lineTailsFrom h).length_le
      simp [frontLine_of_break hc]
      omega
    · have := ih hc h
      simp [frontLine_of_not_break hc]
      omega

theorem pairwise_lineTailsFrom (before : Option Char) (s : List Char) :
    (lineTailsFrom isBreak before s).Pairwise fun t t' =>
      t'.length + (frontLine isBreak t).length < t.length := by
  induction s generalizing before with
  | nil => simp [lineTailsFrom]
  | cons c s ih =>
    rw [lineTailsFrom]
    split
    · refine List.pairwise_cons.mpr ⟨fun t ht => ?_, ih _⟩
      by_cases hc : isBreak c = true
      · have := (isSuffix_of_mem_lineTailsFrom ht).length_le
        simp [frontLine_of_break hc]
        omega
      · have := lt_of_mem_lineTailsFrom hc ht
        simp [frontLine_of_not_break hc]
        omega
    · exact ih _

/-- Each tail starts behind the lines before it. -/
theorem pairwise_lineTails (text : List Char) :
    (lineTails isBreak text).Pairwise fun t t' =>
      t'.length + (frontLine isBreak t).length < t.length :=
  pairwise_lineTailsFrom none text

end ProblemMatcher.Text
