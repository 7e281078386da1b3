import ProblemMatcher.Proofs.Text.LineTails

/-!
# Numbers of lines

The number of a line is how often the text in front of it breaks. An editor breaks a text at fewer
characters than a general reader of lines does, so it counts fewer lines in front of the same place:
the difference is the number of breaks there that are foreign to it. As long as there are none, both
see the same lines.

1. `exists_eq_append_of_lineTails`: what the number of a line counts.
2. `countBreaks_eq_add`: the two ways to count differ by the foreign breaks.
3. `splitLinesFrom_congr`, `take_splitLinesFrom`: when two ways to cut a text give the same lines.
-/

namespace ProblemMatcher.Text

variable {isBreak isBreak' : Char → Bool}

theorem startsLine_congr {c : Char} (h : isBreak c = isBreak' c) (d : Char) :
    startsLine isBreak (some c) d = startsLine isBreak' (some c) d := by
  rw [startsLine, startsLine, h]

/-- How often a text breaks; a carriage return with a line feed behind it is one break. -/
def countBreaks (isBreak : Char → Bool) : List Char → Nat
  | [] => 0
  | [c] => if isBreak c then 1 else 0
  | c :: d :: rest =>
    if startsLine isBreak (some c) d then countBreaks isBreak (d :: rest) + 1
    else countBreaks isBreak (d :: rest)

theorem exists_eq_append_of_lineTailsFrom {b : Char} {s tail : List Char} {i : Nat}
    (h : (lineTailsFrom isBreak (some b) s)[i]? = some tail) :
    ∃ earlier, s = earlier ++ tail ∧ countBreaks isBreak (b :: earlier) = i + 1 := by
  induction s generalizing b i with
  | nil => cases h
  | cons c s ih =>
    rw [lineTailsFrom] at h
    split at h
    case isTrue hstart =>
      cases i with
      | zero =>
        cases h
        refine ⟨[], rfl, ?_⟩
        rw [countBreaks, if_pos (isBreak_of_startsLine hstart b rfl)]
      | succ i =>
        obtain ⟨earlier, rfl, hcount⟩ := ih h
        refine ⟨c :: earlier, rfl, ?_⟩
        rw [countBreaks, if_pos hstart, hcount]
    case isFalse hstart =>
      obtain ⟨earlier, rfl, hcount⟩ := ih h
      refine ⟨c :: earlier, rfl, ?_⟩
      rw [countBreaks, if_neg hstart, hcount]

/-- The number of a line is how often the text in front of it breaks. -/
theorem exists_eq_append_of_lineTails {text tail : List Char} {i : Nat}
    (h : (lineTails isBreak text)[i]? = some tail) :
    ∃ earlier, text = earlier ++ tail ∧ countBreaks isBreak earlier = i := by
  unfold lineTails at h
  cases text with
  | nil => cases h
  | cons c s =>
    have hfirst : lineTailsFrom isBreak none (c :: s) =
        (c :: s) :: lineTailsFrom isBreak (some c) s := rfl
    rw [hfirst] at h
    cases i with
    | zero =>
      cases h
      exact ⟨[], rfl, rfl⟩
    | succ i =>
      obtain ⟨earlier, rfl, hcount⟩ := exists_eq_append_of_lineTailsFrom h
      exact ⟨c :: earlier, rfl, hcount⟩

theorem countBreaks_concat (hlf : isBreak '\n' = true) {c : Char} (hc : ¬isBreak c = true)
    (s : List Char) : countBreaks isBreak (s ++ [c]) = countBreaks isBreak s := by
  have hstarts : ∀ b, startsLine isBreak (some b) c = isBreak b := by
    intro b
    have hne : c ≠ '\n' := by
      rintro rfl
      exact hc hlf
    simp [startsLine, hne]
  fun_induction countBreaks isBreak s with
  | case1 => simp [countBreaks, hc]
  | case2 b hb => simp [countBreaks, hstarts, hb, hc]
  | case3 b hb => simp [countBreaks, hstarts, hb, hc]
  | case4 b d rest hstart ih =>
    rw [List.cons_append] at ih
    rw [List.cons_append, List.cons_append, countBreaks, if_pos hstart, ih]
  | case5 b d rest hstart ih =>
    rw [List.cons_append] at ih
    rw [List.cons_append, List.cons_append, countBreaks, if_neg hstart, ih]

/-- Inside a line the number stays the same. -/
theorem countBreaks_append (hlf : isBreak '\n' = true) {line : List Char}
    (h : ∀ c ∈ line, ¬isBreak c = true) (earlier : List Char) :
    countBreaks isBreak (earlier ++ line) = countBreaks isBreak earlier := by
  induction line generalizing earlier with
  | nil => rw [List.append_nil]
  | cons c line ih =>
    obtain ⟨hc, hline⟩ := List.forall_mem_cons.mp h
    rw [List.append_cons, ih hline, countBreaks_concat hlf hc]

/-! ## Editors -/

/-- A break of a general text at which no editor breaks lines. -/
def isForeignBreak (c : Char) : Bool :=
  isLineBreak c && !isEditorBreak c

/-- A text that breaks only where an editor breaks it. -/
def HasEditorBreaks (s : List Char) : Prop :=
  ∀ c ∈ s, ¬isForeignBreak c = true

instance (s : List Char) : Decidable (HasEditorBreaks s) :=
  decidable_of_iff (s.all (!isForeignBreak ·) = true) (by simp [HasEditorBreaks])

theorem isLineBreak_of_isEditorBreak {c : Char} (h : isEditorBreak c = true) :
    isLineBreak c = true := by
  simp only [isEditorBreak, Bool.or_eq_true, beq_iff_eq] at h
  obtain rfl | rfl := h <;> rfl

theorem isLineBreak_eq {c : Char} (h : ¬isForeignBreak c = true) :
    isLineBreak c = isEditorBreak c := by
  cases he : isEditorBreak c with
  | true => exact isLineBreak_of_isEditorBreak he
  | false => simpa [isForeignBreak, he] using h

theorem startsLine_of_isForeignBreak {c : Char} (h : isForeignBreak c = true) (d : Char) :
    startsLine isLineBreak (some c) d = true := by
  obtain ⟨hbreak, heditor⟩ := Bool.and_eq_true_iff.mp h
  have hne : c ≠ '\r' := by
    rintro rfl
    cases heditor
  simp [startsLine, hbreak, hne]

/-- The two ways to count lines differ by the foreign breaks. -/
theorem countBreaks_eq_add (s : List Char) :
    countBreaks isLineBreak s = countBreaks isEditorBreak s + s.countP isForeignBreak := by
  fun_induction countBreaks isEditorBreak s with
  | case1 => rfl
  | case2 c hc => simp [countBreaks, isLineBreak_of_isEditorBreak hc, isForeignBreak, hc]
  | case3 c hc => simp [countBreaks, isForeignBreak, hc, List.countP_cons]
  | case4 c d rest hstart ih =>
    have hc : isEditorBreak c = true := isBreak_of_startsLine hstart c rfl
    have hstart' : startsLine isLineBreak (some c) d = true := by
      rw [startsLine_congr (isLineBreak_eq (by simp [isForeignBreak, hc])), hstart]
    rw [countBreaks, if_pos hstart', ih]
    simp [isForeignBreak, hc]
    omega
  | case5 c d rest hstart ih =>
    cases hc : isForeignBreak c with
    | true =>
      rw [countBreaks, if_pos (startsLine_of_isForeignBreak hc d), ih]
      simp [hc]
      omega
    | false =>
      rw [countBreaks, startsLine_congr (isLineBreak_eq (by simp [hc])), if_neg hstart, ih]
      simp [hc]

/-! ## Lines -/

/-- One step of cutting a text into lines. -/
theorem splitLinesFrom_cons_cons (hlf : isBreak '\n' = true) (read : List Char) (c d : Char)
    (s : List Char) : splitLinesFrom isBreak read (c :: d :: s) =
      if startsLine isBreak (some c) d then read.reverse :: splitLinesFrom isBreak [] (d :: s)
      else splitLinesFrom isBreak (if isBreak c then read else c :: read) (d :: s) := by
  by_cases hc : isBreak c = true
  · by_cases hpair : c = '\r' ∧ d = '\n'
    · obtain ⟨rfl, rfl⟩ := hpair
      rw [if_neg (by simp [startsLine]), if_pos hc, splitLinesFrom_lineFeed hlf, splitLinesFrom,
        if_pos hc, if_pos ⟨rfl, rfl⟩]
    · have hstart : startsLine isBreak (some c) d = true := by
        simpa [startsLine, hc, imp_iff_not_or] using hpair
      rw [if_pos hstart, splitLinesFrom, if_pos hc, if_neg hpair]
  · rw [if_neg (by simp [startsLine, hc]), if_neg hc, splitLinesFrom_cons_of_not_break hc]

theorem exists_splitLinesFrom_of_break {c : Char} (hc : isBreak c = true) (read s : List Char) :
    ∃ lines, splitLinesFrom isBreak read (c :: s) = read.reverse :: lines := by
  cases s with
  | nil => exact ⟨[], by rw [splitLinesFrom, if_pos hc]⟩
  | cons d s =>
    rw [splitLinesFrom, if_pos hc]
    split
    · exact ⟨_, rfl⟩
    · exact ⟨_, rfl⟩

theorem splitLinesFrom_congr {s : List Char} (h : ∀ c ∈ s, isBreak c = isBreak' c)
    (read : List Char) : splitLinesFrom isBreak read s = splitLinesFrom isBreak' read s := by
  fun_induction splitLinesFrom isBreak read s with
  | case1 read hempty => rw [splitLinesFrom, if_pos hempty]
  | case2 read hempty => rw [splitLinesFrom, if_neg hempty]
  | case3 read c hc => rw [splitLinesFrom, ← h c List.mem_cons_self, if_pos hc]
  | case4 read c hc => rw [splitLinesFrom, ← h c List.mem_cons_self, if_neg hc]
  | case5 read c d rest hc hpair ih =>
    obtain ⟨hfirst, hrest⟩ := List.forall_mem_cons.mp h
    rw [splitLinesFrom, ← hfirst, if_pos hc, if_pos hpair, ih (List.forall_mem_cons.mp hrest).2]
  | case6 read c d rest hc hpair ih =>
    obtain ⟨hfirst, hrest⟩ := List.forall_mem_cons.mp h
    rw [splitLinesFrom, ← hfirst, if_pos hc, if_neg hpair, ih hrest]
  | case7 read c d rest hc ih =>
    obtain ⟨hfirst, hrest⟩ := List.forall_mem_cons.mp h
    rw [splitLinesFrom, ← hfirst, if_neg hc, ih hrest]

/-- Two ways to cut a text that agree on its first characters cut off the same first lines. -/
theorem take_splitLinesFrom (hlf : isBreak '\n' = true) (hlf' : isBreak' '\n' = true)
    {front : List Char} (h : ∀ c ∈ front, isBreak c = isBreak' c) (read back : List Char) :
    (splitLinesFrom isBreak read (front ++ back)).take (countBreaks isBreak' front) =
      (splitLinesFrom isBreak' read (front ++ back)).take (countBreaks isBreak' front) := by
  fun_induction countBreaks isBreak' front generalizing read with
  | case1 => rfl
  | case2 c hc =>
    -- a line ends here, whether or not a line feed in the back belongs to its break
    have hfirst : isBreak c = true := (h c List.mem_cons_self).trans hc
    obtain ⟨lines, hlines⟩ := exists_splitLinesFrom_of_break hfirst read back
    obtain ⟨lines', hlines'⟩ := exists_splitLinesFrom_of_break hc read back
    rw [List.singleton_append, hlines, hlines']
    rfl
  | case3 c hc => rfl
  | case4 c d rest hstart ih =>
    obtain ⟨hc, hrest⟩ := List.forall_mem_cons.mp h
    rw [List.cons_append] at ih
    rw [List.cons_append, List.cons_append, splitLinesFrom_cons_cons hlf,
      splitLinesFrom_cons_cons hlf', startsLine_congr hc, if_pos hstart, if_pos hstart,
      List.take_succ_cons, List.take_succ_cons, ih hrest]
  | case5 c d rest hstart ih =>
    obtain ⟨hc, hrest⟩ := List.forall_mem_cons.mp h
    rw [List.cons_append] at ih
    rw [List.cons_append, List.cons_append, splitLinesFrom_cons_cons hlf,
      splitLinesFrom_cons_cons hlf', startsLine_congr hc, if_neg hstart, if_neg hstart, ih hrest, hc]

end ProblemMatcher.Text
