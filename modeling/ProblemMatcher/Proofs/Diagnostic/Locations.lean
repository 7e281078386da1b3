import ProblemMatcher.Proofs.Diagnostic.Ranges
import ProblemMatcher.Proofs.Text.Numerals
import ProblemMatcher.Proofs.Text.PositionOrder

/-!
# Locations that are written out

Integers in decimal with commas between them, and with whitespace around each of them, are read back
as the location that they make up. No other text is read as a location but one of such parts, and
reading fails only over a part that is no integer.

1. `areParts_of_isNumeral`: what is joined by commas is what is read part by part.
2. `AreParts.length_eq`: the number of parts is told by the commas.
3. `parse?_inverts`: what is read of a printed location, and of any text.
-/

namespace ProblemMatcher.Range

open ProblemMatcher.Text

variable {text part : List Char} {parts : List (List Char)} {values : List ℤ} {n : ℤ}

/-- The integer in decimal, with whitespace around it. -/
def IsPrinted (part : List Char) (n : ℤ) : Prop :=
  ∃ before after, part = before ++ ((toString n).toList ++ after) ∧ IsWhite before ∧ IsWhite after

/-- The number of digits of an integer in decimal. -/
def digitCount (n : ℤ) : Nat :=
  (Nat.toDigits 10 n.natAbs).length

/-! ## Parts -/

theorem IsPrinted.isNumeral (h : IsPrinted part n) (hcount : digitCount n ≤ maxDigits) :
    IsNumeral part n := by
  obtain ⟨before, after, rfl, hbefore, hafter⟩ := h
  refine ⟨before, _, after, _, rfl, hbefore, isSigned_toString n, ?_, hafter⟩
  rwa [digitsOf, List.length_map]

/-- No comma is part of an integer. -/
theorem unbroken_of_isNumeral (h : IsNumeral part n) : ',' ∉ part := by
  obtain ⟨before, signed, after, digits, rfl, hbefore, hsigned, -, hafter⟩ := h
  have hwhite : ∀ {s : List Char}, IsWhite s → ',' ∉ s := fun hs hmem =>
    absurd (hs ',' hmem) (by decide)
  have hrun : ∀ {run : List Char}, IsRun run digits → ',' ∉ run := fun hrun hmem =>
    absurd (hrun.isNumeralChar ',' hmem) (by decide)
  have hsigned : ',' ∉ signed := by
    cases hsigned with
    | plain h => exact hrun h
    | plus h | minus h =>
      rw [List.mem_cons, not_or]
      exact ⟨by decide, hrun h⟩
  simp only [List.mem_append, not_or]
  exact ⟨hwhite hbefore, hsigned, hwhite hafter⟩

theorem isNumeral_of_isPrinted (h : List.Forall₂ IsPrinted parts values)
    (hcount : ∀ n ∈ values, digitCount n ≤ maxDigits) : List.Forall₂ IsNumeral parts values := by
  induction h with
  | nil => exact .nil
  | cons hpart _ ih =>
    obtain ⟨hn, hrest⟩ := List.forall_mem_cons.mp hcount
    exact .cons (hpart.isNumeral hn) (ih hrest)

theorem areParts_of_isNumeral (h : List.Forall₂ IsNumeral parts values) (hne : values ≠ []) :
    AreParts parts ([','].intercalate parts) where
  joined := rfl
  some_part := by
    rintro rfl
    cases h
    exact hne rfl
  unbroken part hpart := by
    have hall : ∀ part ∈ parts, ∃ n, IsNumeral part n := exists_forall₂_iff.mp ⟨values, h⟩
    obtain ⟨n, hn⟩ := hall part hpart
    exact unbroken_of_isNumeral hn

theorem AreParts.length_eq (h : AreParts parts text) : parts.length = text.count ',' + 1 := by
  rw [← splitCommas_eq.mpr h]
  exact length_splitOn ',' text

theorem isCounted_iff_commas : IsCounted text ↔ text.count ',' ∈ [0, 1, 3] := by
  have hparts : AreParts (splitCommas text) text := splitCommas_eq.mp rfl
  rw [isCounted_iff, hparts.length_eq, IsCount]
  simp only [List.mem_cons, List.not_mem_nil, or_false]
  omega

/-! ## Reading -/

theorem isWritten_iff {r : Range} : r.IsWritten text ↔
    ∃ parts values, AreParts parts text ∧ List.Forall₂ IsNumeral parts values ∧ Spans values r := by
  simp only [IsWritten, parseInt_eq_ok]

theorem exists_error_iff (h : AreParts parts text) : (∃ fault, parse? text = .error fault) ↔
    text.count ',' ∈ [0, 1, 3] ∧ ∃ part ∈ parts, ∀ n, ¬ IsNumeral part n := by
  constructor
  · rintro ⟨fault, hfault⟩
    have hcounted : IsCounted text := by
      by_contra hnot
      rw [parse?_eq_none.mpr hnot] at hfault
      cases hfault
    refine ⟨isCounted_iff_commas.mp hcounted, ?_⟩
    -- If all parts were integers, they would make up a range.
    by_contra hall
    push Not at hall
    rw [isCounted_iff, splitCommas_eq.mpr h] at hcounted
    obtain ⟨r, hr⟩ := exists_isWritten_iff.mpr
      ⟨parts, h, hcounted, by simpa only [parseInt_eq_ok] using hall⟩
    rw [parse?_eq_some.mpr hr] at hfault
    cases hfault
  · rintro ⟨hcommas, part, hpart, hspoiled⟩
    cases hparse : parse? text with
    | error fault => exact ⟨fault, rfl⟩
    | ok r? =>
      cases r? with
      | none => exact absurd (isCounted_iff_commas.mpr hcommas) (parse?_eq_none.mp hparse)
      | some r =>
        obtain ⟨parts', values, hparts', hvalues, -⟩ := isWritten_iff.mp (parse?_eq_some.mp hparse)
        obtain rfl := (splitCommas_eq.mpr hparts').symm.trans (splitCommas_eq.mpr h)
        obtain ⟨n, hn⟩ := exists_forall₂_iff.mp ⟨values, hvalues⟩ part hpart
        exact absurd hn (hspoiled n)

theorem parse?_of_isPrinted (h : List.Forall₂ IsPrinted parts values) (hne : values ≠ [])
    (hcount : ∀ n ∈ values, digitCount n ≤ maxDigits) :
    (∀ r, Spans values r → parse? ([','].intercalate parts) = .ok (some r)) ∧
      (¬ IsCount values.length → parse? ([','].intercalate parts) = .ok none) := by
  have hnumerals := isNumeral_of_isPrinted h hcount
  have hparts := areParts_of_isNumeral hnumerals hne
  constructor
  · intro r hr
    exact parse?_eq_some.mpr (isWritten_iff.mpr ⟨parts, values, hparts, hnumerals, hr⟩)
  · intro hnot
    rw [parse?_eq_none, isCounted_iff, splitCommas_eq.mpr hparts, hnumerals.length_eq]
    exact hnot

/-- **Locations are read back as they are printed.** Take integers with as many digits as are read.
One of them is read as a line, two as a line and a column, four as both ends, and any other number
of them as no location. Of any text: it is no location, whatever its parts are, exactly if the
number of its commas is not 0, 1 or 3; reading fails exactly if that number is right and some part
is no integer; and a range is read exactly if the parts are integers that make it up. -/
theorem parse?_inverts :
    (∀ parts values, List.Forall₂ IsPrinted parts values → values ≠ [] →
      (∀ n ∈ values, digitCount n ≤ maxDigits) →
      (∀ r, Spans values r → parse? ([','].intercalate parts) = .ok (some r)) ∧
        (¬ IsCount values.length → parse? ([','].intercalate parts) = .ok none)) ∧
    ∀ text, ∃ parts, AreParts parts text ∧
      (parse? text = .ok none ↔ text.count ',' ∉ [0, 1, 3]) ∧
      ((∃ fault, parse? text = .error fault) ↔
        text.count ',' ∈ [0, 1, 3] ∧ ∃ part ∈ parts, ∀ n, ¬ IsNumeral part n) ∧
      ∀ r, parse? text = .ok (some r) ↔
        ∃ values, List.Forall₂ IsNumeral parts values ∧ Spans values r := by
  refine ⟨fun parts values h hne hcount => parse?_of_isPrinted h hne hcount, fun text => ?_⟩
  have hparts : AreParts (splitCommas text) text := splitCommas_eq.mp rfl
  refine ⟨splitCommas text, hparts, ?_, exists_error_iff hparts, fun r => ?_⟩
  · rw [parse?_eq_none, isCounted_iff_commas]
  · rw [parse?_eq_some, isWritten_iff]
    constructor
    · rintro ⟨parts, values, hparts', hvalues, hr⟩
      rw [splitCommas_eq.mpr hparts']
      exact ⟨values, hvalues, hr⟩
    · rintro ⟨values, hvalues, hr⟩
      exact ⟨_, values, hparts, hvalues, hr⟩

/-- A line and a column in Unicode whitespace. With a third number there is no location. -/
theorem parse?_inverts_place :
    parse? "\u2003-7\n,12\u0085".toList = .ok (some ⟨-7, 12, -7, 12⟩) ∧
      parse? "\u2003-7\n,12\u0085,0".toList = .ok none := by
  have hline : IsPrinted "\u2003-7\n".toList (-7) :=
    ⟨['\u2003'], ['\n'], by decide, by decide, by decide⟩
  have hcolumn : IsPrinted "12\u0085".toList 12 :=
    ⟨[], ['\u0085'], by decide, by decide, by decide⟩
  have hmore : IsPrinted "0".toList 0 := ⟨[], [], by decide, by decide, by decide⟩
  have hread := (parse?_inverts.1 _ _ (.cons hline (.cons hcolumn .nil)) (by decide)
    (by decide)).1 _ (.place (-7) 12)
  have hnone := (parse?_inverts.1 _ _ (.cons hline (.cons hcolumn (.cons hmore .nil))) (by decide)
    (by decide)).2 (by unfold IsCount; decide)
  exact ⟨hread, hnone⟩

end ProblemMatcher.Range
