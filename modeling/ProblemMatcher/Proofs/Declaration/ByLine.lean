import ProblemMatcher.Declaration.Pattern
import ProblemMatcher.Proofs.Declaration.PatternLines
import ProblemMatcher.Proofs.Text.LineNumbers

/-!
# Declarations by their lines

A line has at most one declaration, so a declaration is known by the number of its line, and a chain
by the number of chains on the lines before. Lines are numbered as general texts break into them. An
editor may see other lines: up to the first break that is foreign to it both agree, and behind it
the number of a declaration is too large by the foreign breaks in front of it.

1. `extent_of_inLine?`: where a declaration stands on its line.
2. `exists_eq_append_of_mem_find`, `chainIndex_eq`: a declaration among the others.
3. `find?_line_eq`: the declaration at a line.
4. `find_eq_findByEditor`, `filter_line_findByEditor`: where an editor's lines have the same
   declarations.
5. `line_eq_add`: how far the number of a line is off.
-/

namespace ProblemMatcher.Declaration

open Text

variable {text : String} {d : Declaration}

/-! ## Places on a line -/

/-- A declaration is not empty and ends in the part of its line that is looked at. -/
theorem extent_of_inLine? {number : Nat} {line : List Char} (h : inLine? number line = some d) :
    d.column < d.endColumn ∧ d.endColumn ≤ maxLineLength := by
  have hlength : (line.take maxLineLength).length ≤ maxLineLength := List.length_take_le _ _
  simp only [inLine?] at h
  split at h
  case h_1 body hbody =>
    obtain ⟨-, indent, gap, comma, hline, hindent, -⟩ := patternBody?_eq_some.mp hbody
    cases h
    rw [hline] at hlength ⊢
    rw [takeWhile_isBlank_patternLine hindent]
    refine ⟨?_, hlength⟩
    simp [patternLine]
  case h_2 =>
    obtain ⟨rest, hrest, rfl⟩ := Option.map_eq_some_iff.mp h
    obtain ⟨indent, gap, hline, hindent, -⟩ := chainRest?_eq_some.mp hrest
    rw [hline] at hlength ⊢
    rw [takeWhile_isBlank_chainLine hindent]
    rw [length_chainLine] at hlength ⊢
    dsimp only
    omega

theorem extent_of_mem_find (h : d ∈ find text) :
    d.column < d.endColumn ∧ d.endColumn ≤ maxLineLength := by
  obtain ⟨tail, -, hin⟩ := mem_find.mp h
  exact extent_of_inLine? hin

/-! ## A declaration among the others -/

/-- A declaration stands behind those on lines before its own and in front of those behind. -/
theorem exists_eq_append_of_mem_find (h : d ∈ find text) :
    ∃ before after, find text = before ++ d :: after ∧ (∀ c ∈ before, c.line < d.line) ∧
      ∀ c ∈ after, d.line < c.line := by
  obtain ⟨before, after, heq⟩ := List.append_of_mem h
  have hpairwise : (find text).Pairwise (·.line < ·.line) := pairwise_line_inLines 0 _
  rw [heq, List.pairwise_append, List.pairwise_cons] at hpairwise
  obtain ⟨-, ⟨hafter, -⟩, hbefore⟩ := hpairwise
  exact ⟨before, after, heq, fun c hc => hbefore c hc d List.mem_cons_self, hafter⟩

/-- There is one declaration at a line. -/
theorem find?_line (h : d ∈ find text) :
    (find text).find? (fun d' => (d'.line : Int) = d.line) = some d := by
  obtain ⟨before, after, heq, hbefore, -⟩ := exists_eq_append_of_mem_find h
  rw [heq]
  refine List.find?_eq_some_iff_append.mpr ⟨by simp, before, after, rfl, fun d' hd' => ?_⟩
  have := hbefore d' hd'
  simp
  omega

/-- The place of a chain among the chains is the number of chains on the lines before. -/
theorem chainIndex_eq (h : d ∈ find text) (hchain : d.isChain = true) :
    d.chainIndex (find text) =
      (find text).countP fun c => c.isChain && decide (c.line < d.line) := by
  obtain ⟨before, after, heq, hbefore, hafter⟩ := exists_eq_append_of_mem_find h
  -- chains are looked for by equality, but those before this one are on other lines
  have hother : ∀ c ∈ before.filter isChain, decide (c = d) = false := by
    refine fun c hc => decide_eq_false ?_
    rintro rfl
    exact Nat.lt_irrefl _ (hbefore c (List.mem_filter.mp hc).1)
  have hbehind : (d :: after).countP (fun c => c.isChain && decide (c.line < d.line)) = 0 := by
    refine List.countP_eq_zero.mpr fun c hc hlt => ?_
    have hlt : c.line < d.line := of_decide_eq_true (Bool.and_eq_true_iff.mp hlt).2
    obtain rfl | hc := List.mem_cons.mp hc
    · exact Nat.lt_irrefl _ hlt
    · exact Nat.lt_asymm hlt (hafter c hc)
  calc d.chainIndex (find text)
      = (before.filter isChain).length := by
        rw [chainIndex, heq, List.filter_append, List.filter_cons_of_pos hchain,
          List.findIdx_append, List.findIdx_eq_length_of_false hother, if_neg (Nat.lt_irrefl _),
          List.findIdx_cons]
        simp
    _ = before.countP fun c => c.isChain && decide (c.line < d.line) := by
        rw [← List.countP_eq_length_filter]
        refine List.countP_congr fun c hc => ?_
        simp [hbefore c hc]
    _ = (find text).countP fun c => c.isChain && decide (c.line < d.line) := by
        rw [heq, List.countP_append, hbehind, Nat.add_zero]

/-! ## The declaration at a line -/

theorem find?_line_eq (n : Nat) : (find text).find? (fun d => (d.line : Int) = n) =
    (splitLines isLineBreak text.toList)[n]?.bind (inLine? n) := by
  have hfilter := filter_line_inLines 0 n (splitLines isLineBreak text.toList)
  rw [Nat.zero_add] at hfilter
  rw [← List.head?_filter]
  simp only [Int.natCast_inj]
  rw [find, hfilter, Option.head?_toList]

/-- The declarations on the first lines are those of these lines. -/
theorem filter_lt_inLines (number n : Nat) (lines : List (List Char)) :
    (inLines number lines).filter (·.line < number + n) = inLines number (lines.take n) := by
  induction lines generalizing number n with
  | nil => simp [inLines]
  | cons line rest ih =>
    cases n with
    | zero =>
      refine List.filter_eq_nil_iff.mpr fun d hd => ?_
      have := le_line_of_mem_inLines hd
      simp
      omega
    | succ n =>
      have hline : (inLine? number line).toList.filter (·.line < number + (n + 1)) =
          (inLine? number line).toList := by
        refine List.filter_eq_self.mpr fun d hd => ?_
        have := line_of_inLine? (Option.mem_toList.mp hd)
        simp
        omega
      have hnumber : number + (n + 1) = number + 1 + n := by omega
      rw [List.take_succ_cons, inLines, inLines, List.filter_append, hline, hnumber, ih]

/-! ## The lines of an editor -/

/-- The declaration in a line that an editor sees. -/
def inEditorLine? (text : String) (n : Nat) : Option Declaration :=
  (splitLines isEditorBreak text.toList)[n]?.bind (inLine? n)

/-- The declarations in the lines that an editor sees, in order. -/
def findByEditor (text : String) : List Declaration :=
  inLines 0 (splitLines isEditorBreak text.toList)

/-- A text that breaks only where an editor breaks it has the same lines for both. -/
theorem splitLines_eq_editor {text : List Char} (h : HasEditorBreaks text) :
    splitLines isLineBreak text = splitLines isEditorBreak text :=
  splitLinesFrom_congr (fun c hc => isLineBreak_eq (h c hc)) []

theorem find_eq_findByEditor (h : HasEditorBreaks text.toList) : find text = findByEditor text := by
  rw [find, splitLines_eq_editor h, findByEditor]

/-- Up to the first foreign break both see the same declarations. -/
theorem filter_line_findByEditor {front back : List Char} (htext : text.toList = front ++ back)
    (h : HasEditorBreaks front) :
    (find text).filter (·.line < countBreaks isEditorBreak front) =
      (findByEditor text).filter (·.line < countBreaks isEditorBreak front) := by
  have htake : (splitLines isLineBreak text.toList).take (countBreaks isEditorBreak front) =
      (splitLines isEditorBreak text.toList).take (countBreaks isEditorBreak front) := by
    rw [htext]
    exact take_splitLinesFrom rfl rfl (fun c hc => isLineBreak_eq (h c hc)) [] back
  have hfilter := filter_lt_inLines 0 (countBreaks isEditorBreak front)
  simp only [Nat.zero_add] at hfilter
  rw [find, findByEditor, hfilter, hfilter, htake]

/-- The number of the line of a declaration is that of the editor's line and the number of foreign
breaks in front of it. -/
theorem line_eq_add (h : d ∈ find text) : ∃ earlier, text.toList = earlier ++ place text d ∧
    d.line = countBreaks isEditorBreak earlier + earlier.countP isForeignBreak := by
  obtain ⟨tail, htail, hin⟩ := mem_find.mp h
  obtain ⟨earlier, htext, hcount⟩ := exists_eq_append_of_lineTails htail
  have hindent : ∀ c ∈ tail.take d.column, ¬isLineBreak c = true := by
    obtain ⟨behind, hbehind⟩ : frontLine isLineBreak tail <+: tail := List.takeWhile_prefix _
    rw [← hbehind, List.take_append_of_le_length (column_le_of_inLine? hin)]
    exact fun c hc => by simpa using List.mem_takeWhile_imp (List.mem_of_mem_take hc)
  refine ⟨earlier ++ tail.take d.column, ?_, ?_⟩
  · rw [place, htail, Option.getD_some, List.append_assoc, List.take_append_drop, htext]
  · rw [← countBreaks_eq_add, countBreaks_append rfl hindent, hcount]

end ProblemMatcher.Declaration
