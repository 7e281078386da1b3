import ProblemMatcher.Proofs.Text.Positions

/-!
# Places and positions

The places of a text, its end included, and its positions are the same in another form: a line, and
a column that is at most the length of that line. Each position is that of one place, and places
have their positions in their own order, also those that are not in the text.

1. `getElem?_splitOn_eq_some`: a line of a text, by what stands in front of it and behind it.
2. `exists_start`: the line of a place, by its start.
3. `isBefore_positionAt`: positions are in the order of the places.
4. `exists_place`: every position is that of a place.
5. `positionAt_bijective`: places and positions.
-/

namespace ProblemMatcher.Text

/-! ## Lines between line feeds -/

/-- A line with its number: there are that many line feeds in front of it, the last of them right in
front, and the next one right behind it. -/
structure IsLine (text : List Char) (number : Nat) (before content after : List Char) : Prop where
  text_eq : text = before ++ (content ++ after)
  before_lines : IsLines before
  count_before : before.count '\n' = number
  unbroken : '\n' ∉ content
  after_head : ∀ c ∈ after.head?, c = '\n'

section

variable {text before content after : List Char} {number : Nat}

theorem IsLine.cons (h : IsLine text number before content after) {first : List Char}
    (hfirst : '\n' ∉ first) :
    IsLine (first ++ '\n' :: text) (number + 1) (first ++ '\n' :: before) content after where
  text_eq := by simp [h.text_eq]
  before_lines := by
    intro c hc
    rw [List.getLast?_append_of_ne_nil _ (List.cons_ne_nil _ _)] at hc
    cases before with
    | nil => simpa using hc.symm
    | cons d before => exact h.before_lines c (by simpa using hc)
  count_before := by simp [List.count_eq_zero_of_not_mem hfirst, h.count_before]
  unbroken := h.unbroken
  after_head := h.after_head

theorem exists_isLine (h : (text.splitOn '\n')[number]? = some content) :
    ∃ before after, IsLine text number before content after := by
  induction number generalizing text with
  | zero =>
    -- the first line ends at the first line feed, or it is the whole text
    by_cases hbreak : '\n' ∈ text
    · obtain ⟨first, rest, rfl, hfirst⟩ := List.eq_append_cons_of_mem hbreak
      rw [List.splitOn_append_cons_self_of_not_mem hfirst] at h
      cases h
      exact ⟨[], '\n' :: rest, rfl, nofun, rfl, hfirst, by simp⟩
    · rw [List.splitOn_eq_singleton hbreak] at h
      cases h
      exact ⟨[], [], by simp, nofun, rfl, hbreak, nofun⟩
  | succ number ih =>
    by_cases hbreak : '\n' ∈ text
    · obtain ⟨first, rest, rfl, hfirst⟩ := List.eq_append_cons_of_mem hbreak
      rw [List.splitOn_append_cons_self_of_not_mem hfirst, List.getElem?_cons_succ] at h
      obtain ⟨before, after, hline⟩ := ih h
      exact ⟨_, _, hline.cons hfirst⟩
    · rw [List.splitOn_eq_singleton hbreak] at h
      cases h

theorem length_splitOn (sep : Char) (text : List Char) :
    (text.splitOn sep).length = text.count sep + 1 := by
  induction text with
  | nil => rfl
  | cons c rest ih =>
    rw [List.splitOn_cons_eq_if_modifyHead, List.count_cons]
    split_ifs
    · rw [List.length_cons, ih]
    · rw [List.length_modifyHead, ih, Nat.add_zero]

theorem head?_splitOn (hcontent : '\n' ∉ content) (hafter : ∀ c ∈ after.head?, c = '\n') :
    ((content ++ after).splitOn '\n')[0]? = some content := by
  cases after with
  | nil => rw [List.append_nil, List.splitOn_eq_singleton hcontent, List.getElem?_cons_zero]
  | cons c after =>
    obtain rfl := hafter c rfl
    rw [List.splitOn_append_cons_self_of_not_mem hcontent, List.getElem?_cons_zero]

/-- The lines of a text are what stands between its line feeds. -/
theorem getElem?_splitOn_eq_some :
    (text.splitOn '\n')[number]? = some content ↔
      ∃ before after, IsLine text number before content after := by
  refine ⟨exists_isLine, ?_⟩
  rintro ⟨before, after, rfl, hbefore, rfl, hcontent, hafter⟩
  -- what is in front is empty, or ends with the line feed that the list is split at
  rcases List.eq_nil_or_concat before with rfl | ⟨earlier, c, rfl⟩
  · exact head?_splitOn hcontent hafter
  · obtain rfl : c = '\n' := hbefore c (by simp)
    rw [List.concat_eq_append, List.append_assoc, List.singleton_append,
      List.splitOn_append_cons_self, List.count_append, List.count_singleton_self,
      ← length_splitOn, List.getElem?_append_right (Nat.le_refl _), Nat.sub_self]
    exact head?_splitOn hcontent hafter

/-- There are as many lines as line starts. -/
theorem length_lineStarts (text : List Char) :
    (lineStarts text).length = (text.splitOn '\n').length := by
  rw [lineStarts, List.length_cons, length_startsAfterBreaks, length_splitOn]

end

/-! ## Positions -/

/-- One position comes before another: on an earlier line, or further to the left. -/
def Position.IsBefore (p q : Position) : Prop :=
  p.line < q.line ∨ p.line = q.line ∧ p.column < q.column

theorem Position.not_isBefore_self (p : Position) : ¬p.IsBefore p := by
  unfold IsBefore
  omega

section

variable {text : List Char}

/-- The line of a place starts in front of it, and all line feeds before the place come first. Behind
the end of the text this is the last line. -/
theorem exists_start (text : List Char) (place : Nat) :
    ∃ start ≤ place, (lineStarts text)[(text.take place).count '\n']? = some start ∧
      positionAt text place = ⟨(text.take place).count '\n', (place : Int) - start⟩ := by
  -- the line is found in the text up to the place, so it need not be complete
  obtain ⟨before, line, hsplit, hbefore, hline⟩ := exists_line (text.take place)
  have htext : text = before ++ (line ++ text.drop place) := by
    rw [← List.append_assoc, ← hsplit, List.take_append_drop]
  have hcount : (text.take place).count '\n' = before.count '\n' := by
    rw [hsplit, List.count_append, List.count_eq_zero_of_not_mem hline, Nat.add_zero]
  have hlength : before.length + line.length = min place text.length := by
    rw [← List.length_append, ← hsplit, List.length_take]
  have hafter : ∀ b ∈ startsAfterBreaks (before.length + line.length) (text.drop place),
      place < b := by
    intro b hb
    obtain ⟨hlt, hle⟩ := mem_startsAfterBreaks hb
    rw [List.length_drop] at hle
    omega
  have hplace : before.length ≤ place := by omega
  refine ⟨before.length, hplace, ?_, ?_⟩
  · rw [hcount]
    calc (lineStarts text)[before.count '\n']?
        = (lineStarts (before ++ (line ++ text.drop place)))[before.count '\n']? := by rw [← htext]
      _ = some before.length := lineStarts_getElem? hbefore hline _
  · rw [hcount]
    calc positionAt text place
        = positionAt (before ++ (line ++ text.drop place)) place := by rw [← htext]
      _ = ⟨before.count '\n', (place : Int) - before.length⟩ :=
        positionAt_of_starts hbefore hline hplace hafter

/-- Positions are in the order of the places, also of those in front of the text or behind it. -/
theorem isBefore_positionAt {first second : Int} (h : first < second) :
    (positionAt text first).IsBefore (positionAt text second) := by
  -- a place in front of the text has a line number in front of all others
  obtain hneg | hpos := lt_or_ge first 0
  · have hfirst : positionAt text first =
        ⟨-1, first - (lineStarts text).toArray.back?.getD 0⟩ := if_pos hneg
    obtain hneg' | hpos' := lt_or_ge second 0
    · have hsecond : positionAt text second =
          ⟨-1, second - (lineStarts text).toArray.back?.getD 0⟩ := if_pos hneg'
      rw [hfirst, hsecond]
      exact Or.inr ⟨rfl, Int.sub_lt_sub_right h _⟩
    · obtain ⟨place, rfl⟩ := Int.eq_ofNat_of_zero_le hpos'
      obtain ⟨start, -, -, hsecond⟩ := exists_start text place
      rw [hfirst, hsecond]
      exact Or.inl (Int.negSucc_lt_zero 0 |>.trans_le (Int.natCast_nonneg _))
  · obtain ⟨place, rfl⟩ := Int.eq_ofNat_of_zero_le hpos
    obtain ⟨place', rfl⟩ := Int.eq_ofNat_of_zero_le (hpos.trans h.le)
    have hlt : place < place' := Int.ofNat_lt.mp h
    obtain ⟨start, -, hstart, hfirst⟩ := exists_start text place
    obtain ⟨start', -, hstart', hsecond⟩ := exists_start text place'
    have hlines : (text.take place).count '\n' ≤ (text.take place').count '\n' :=
      (List.take_prefix_take_left hlt.le).sublist.count_le _
    rw [hfirst, hsecond]
    rcases Nat.lt_or_eq_of_le hlines with hline | hline
    · exact Or.inl (Int.ofNat_lt.mpr hline)
    · rw [hline] at hstart
      cases hstart.symm.trans hstart'
      exact Or.inr ⟨congrArg Nat.cast hline, Int.sub_lt_sub_right h _⟩

/-- A place in a text is no further from the start of its line than the line is long. -/
theorem exists_line_of_place {place : Nat} (h : place ≤ text.length) :
    ∃ (line column start : Nat) (content : List Char), line = (text.take place).count '\n' ∧
      positionAt text place = ⟨line, column⟩ ∧ (lineStarts text)[line]? = some start ∧
      start + column = place ∧ (text.splitOn '\n')[line]? = some content ∧
      column ≤ content.length := by
  obtain ⟨before, line, after, rfl, rfl, hbefore, hline, hposition⟩ := isAt_positionAt h
  refine ⟨before.count '\n', line.length, before.length, line ++ after.takeWhile (· ≠ '\n'), ?_,
    hposition, lineStarts_getElem? hbefore hline after, rfl, ?_, ?_⟩
  · rw [← List.append_assoc, ← List.length_append, List.take_left, List.count_append,
      List.count_eq_zero_of_not_mem hline, Nat.add_zero]
  · refine getElem?_splitOn_eq_some.mpr ⟨before, after.dropWhile (· ≠ '\n'), ?_, hbefore, rfl, ?_,
      fun c hc => ?_⟩
    · rw [List.append_assoc, List.takeWhile_append_dropWhile]
    · rw [List.mem_append, not_or]
      exact ⟨hline, fun hmem => by simpa using List.mem_takeWhile_imp hmem⟩
    · have hhead := List.head?_dropWhile_not (fun c => decide (c ≠ '\n')) after
      rw [hc] at hhead
      simpa using hhead
  · rw [List.length_append]
    exact Nat.le_add_right _ _

/-- Every position on a line of the text is that of a place. -/
theorem exists_place {line column : Nat} {content : List Char}
    (hcontent : (text.splitOn '\n')[line]? = some content) (hcolumn : column ≤ content.length) :
    ∃ place ≤ text.length, positionAt text (place : Nat) = ⟨line, column⟩ := by
  obtain ⟨before, after, rfl, hbefore, rfl, hunbroken, -⟩ := exists_isLine hcontent
  have hfront : '\n' ∉ content.take column := fun hmem => hunbroken (List.mem_of_mem_take hmem)
  refine ⟨before.length + column, ?_, ?_⟩
  · simp only [List.length_append]
    omega
  · have hposition := positionAt_append hbefore hfront (content.drop column ++ after)
    rw [List.length_take_of_le hcolumn, ← List.append_assoc (content.take column),
      List.take_append_drop] at hposition
    exact hposition

/-- **Places and positions are the same in another form.** The position of a place is the line that
the line feeds in front of it count, and the distance to the start of that line, which is at most
the length of the line. Places have their positions in their own order. There are as many lines as
line starts, and for every column on a line there is one place that has this position. -/
theorem positionAt_bijective (text : List Char) :
    (∀ place ≤ text.length, ∃ (line column start : Nat) (content : List Char),
      line = (text.take place).count '\n' ∧ positionAt text place = ⟨line, column⟩ ∧
      (lineStarts text)[line]? = some start ∧ start + column = place ∧
      (text.splitOn '\n')[line]? = some content ∧ column ≤ content.length) ∧
    (∀ first second : Int, first < second →
      (positionAt text first).IsBefore (positionAt text second)) ∧
    ∀ line < (lineStarts text).length, ∃ content, (text.splitOn '\n')[line]? = some content ∧
      ∀ column ≤ content.length, ∃ place ≤ text.length,
        ∀ other : Int, positionAt text other = ⟨line, column⟩ ↔ other = (place : Nat) := by
  refine ⟨fun place => exists_line_of_place, fun first second => isBefore_positionAt,
    fun line hline => ?_⟩
  rw [length_lineStarts] at hline
  refine ⟨_, List.getElem?_eq_getElem hline, fun column hcolumn => ?_⟩
  obtain ⟨place, hplace, hposition⟩ := exists_place (List.getElem?_eq_getElem hline) hcolumn
  refine ⟨place, hplace, fun other => ⟨fun hother => ?_, fun hother => hother ▸ hposition⟩⟩
  have hsame : positionAt text other = positionAt text place := hother.trans hposition.symm
  rcases Int.lt_trichotomy other place with hlt | heq | hgt
  · exact absurd (hsame ▸ isBefore_positionAt hlt) (Position.not_isBefore_self _)
  · exact heq
  · exact absurd (hsame ▸ isBefore_positionAt hgt) (Position.not_isBefore_self _)

/-- An empty line, and another one behind the last line feed. -/
theorem positionAt_bijective_emptyLines :
    (∃ (line column start : Nat) (content : List Char), line = 1 ∧
      positionAt ['a', '\n', '\n'] 2 = ⟨line, column⟩ ∧
      (lineStarts ['a', '\n', '\n'])[line]? = some start ∧ start + column = 2 ∧
      (['a', '\n', '\n'].splitOn '\n')[line]? = some content ∧ column ≤ content.length) ∧
    (positionAt ['a', '\n', '\n'] 1).IsBefore (positionAt ['a', '\n', '\n'] 2) ∧
    ∃ place ≤ 3, ∀ other : Int,
      positionAt ['a', '\n', '\n'] other = ⟨2, 0⟩ ↔ other = (place : Nat) := by
  obtain ⟨hplaces, horder, hpositions⟩ := positionAt_bijective ['a', '\n', '\n']
  obtain ⟨content, -, hcolumns⟩ := hpositions 2 (by decide)
  exact ⟨hplaces 2 (by decide), horder 1 2 (by decide), hcolumns 0 (Nat.zero_le _)⟩

end

end ProblemMatcher.Text
