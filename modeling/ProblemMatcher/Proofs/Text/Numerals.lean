import Mathlib
import ProblemMatcher.Text.Numeral

/-!
# Which texts are integers

An integer is read from a run of digits of any script, with a sign or none in front and Unicode
whitespace around. `toString` writes such a run, in ASCII and without underscores.

1. `isNumeralBlank_iff`, `digitValue?_of_whiteSpace`: whitespace ends a run.
2. `isRun_iff`: what is taken for a run is one, by induction on its characters.
3. `parseInt_eq_ok`: an integer is read from exactly the texts that are one (`IsNumeral`).
4. `isSigned_toString`: so it is read from what is written for it.
-/

namespace ProblemMatcher.Text

variable {text run after : List Char} {digits : List Nat} {c : Char} {d : Nat} {n : ℤ}

/-! ## Integers in a text -/

/-- The characters with the property `White_Space` of Unicode. -/
def whiteSpace : List Nat := [
  9, 10, 11, 12, 13, 32, 133, 160, 5760, 8192, 8193, 8194, 8195, 8196, 8197, 8198, 8199, 8200, 8201,
  8202, 8232, 8233, 8239, 8287, 12288]

def IsWhite (text : List Char) : Prop :=
  ∀ c ∈ text, c.toNat ∈ whiteSpace

instance (text : List Char) : Decidable (IsWhite text) :=
  List.decidableBAll (fun c : Char => c.toNat ∈ whiteSpace) text

/-- Digits with their values, the highest first. Between two of them there may be an underscore. -/
inductive IsRun : List Char → List Nat → Prop
  | last {c : Char} {d : Nat} : digitValue? c = some d → IsRun [c] [d]
  | digit {c : Char} {d : Nat} {run : List Char} {digits : List Nat} :
      digitValue? c = some d → IsRun run digits → IsRun (c :: run) (d :: digits)
  | spaced {c : Char} {d : Nat} {run : List Char} {digits : List Nat} :
      digitValue? c = some d → IsRun run digits → IsRun (c :: '_' :: run) (d :: digits)

/-- A run with a sign or none, its digits and the integer that it stands for. -/
inductive IsSigned : List Char → List Nat → ℤ → Prop
  | plain {run : List Char} {digits : List Nat} :
      IsRun run digits → IsSigned run digits (Nat.ofDigits 10 digits.reverse : ℕ)
  | plus {run : List Char} {digits : List Nat} :
      IsRun run digits → IsSigned ('+' :: run) digits (Nat.ofDigits 10 digits.reverse : ℕ)
  | minus {run : List Char} {digits : List Nat} :
      IsRun run digits → IsSigned ('-' :: run) digits (-(Nat.ofDigits 10 digits.reverse : ℕ))

/-- The text is an integer with whitespace around it, of no more digits than there may be. -/
def IsNumeral (text : List Char) (n : ℤ) : Prop :=
  ∃ before signed after digits, text = before ++ (signed ++ after) ∧ IsWhite before ∧
    IsSigned signed digits n ∧ digits.length ≤ maxDigits ∧ IsWhite after

/-! ## Characters -/

theorem isNumeralBlank_iff : isNumeralBlank c = true ↔ c.toNat ∈ whiteSpace := by
  simp only [isNumeralBlank, isAsciiBlank, isBlank, whiteSpace, List.mem_cons, List.not_mem_nil,
    or_false]
  split_ifs
  · simp
    omega
  · simp
    omega

theorem digitValue?_of_whiteSpace (h : c.toNat ∈ whiteSpace) : digitValue? c = none := by
  have hall : ∀ n ∈ whiteSpace, digitValue? (Char.ofNat n) = none := by decide
  rw [← Char.ofNat_toNat c]
  exact hall _ h

theorem isNumeralChar_of_whiteSpace (h : c.toNat ∈ whiteSpace) : isNumeralChar c = false := by
  have hunderscore : c ≠ '_' := by
    rintro rfl
    exact absurd h (by decide)
  simp [isNumeralChar, isDecimalDigit, digitValue?_of_whiteSpace h, hunderscore]

theorem isNumeralChar_of_digit (h : digitValue? c = some d) : isNumeralChar c = true := by
  simp [isNumeralChar, isDecimalDigit, h]

theorem not_whiteSpace_of_digit (h : digitValue? c = some d) : c.toNat ∉ whiteSpace := by
  intro hwhite
  rw [digitValue?_of_whiteSpace hwhite] at h
  cases h

/-- A character that is no digit is none of a digit's. -/
theorem ne_of_digit {other : Char} (h : digitValue? c = some d)
    (hother : digitValue? other = none) : c ≠ other := by
  rintro rfl
  rw [hother] at h
  cases h

/-! ## Runs -/

theorem wellSpaced_cons {rest : List Char} (hc : c ≠ '_') (afterDigit : Bool) :
    wellSpaced afterDigit (c :: rest) = wellSpaced true rest := by
  rw [wellSpaced, if_neg (by simpa using hc)]

theorem isRun_of_wellSpaced (hrun : ∀ c ∈ run, isNumeralChar c = true) :
    (wellSpaced false run = true → IsRun run (run.filterMap digitValue?)) ∧
      (wellSpaced true run = true → run = [] ∨ IsRun run (run.filterMap digitValue?) ∨
        ∃ rest, run = '_' :: rest ∧ IsRun rest (rest.filterMap digitValue?)) := by
  -- Behind a digit a run may end, go on or pause, so the second half is what the first one needs.
  induction run with
  | nil => exact ⟨nofun, fun _ => Or.inl rfl⟩
  | cons c rest ih =>
    obtain ⟨ih, ih'⟩ := ih fun c hc => hrun c (List.mem_cons_of_mem _ hc)
    by_cases hunderscore : c = '_'
    · subst hunderscore
      exact ⟨nofun, fun h => Or.inr (Or.inr ⟨rest, rfl, ih h⟩)⟩
    · obtain ⟨d, hd⟩ : ∃ d, digitValue? c = some d := by
        have hc := hrun c List.mem_cons_self
        simpa [isNumeralChar, isDecimalDigit, hunderscore, Option.isSome_iff_exists] using hc
      have hcons : wellSpaced true rest = true → IsRun (c :: rest)
          ((c :: rest).filterMap digitValue?) := by
        intro h
        rw [List.filterMap_cons_some hd]
        rcases ih' h with rfl | hrest | ⟨rest, rfl, hrest⟩
        · exact .last hd
        · exact .digit hd hrest
        · exact .spaced hd hrest
      rw [wellSpaced_cons hunderscore, wellSpaced_cons hunderscore]
      exact ⟨hcons, fun h => Or.inr (Or.inl (hcons h))⟩

theorem wellSpaced_true (h : wellSpaced false run = true) : wellSpaced true run = true := by
  cases run with
  | nil => rfl
  | cons c rest =>
    by_cases hc : c = '_'
    · subst hc
      cases h
    · rw [wellSpaced_cons hc] at h ⊢
      exact h

theorem IsRun.wellSpaced (h : IsRun run digits) : wellSpaced false run = true := by
  induction h with
  | last hd => exact wellSpaced_cons (ne_of_digit hd rfl) false
  | digit hd _ ih =>
    rw [wellSpaced_cons (ne_of_digit hd rfl)]
    exact wellSpaced_true ih
  | spaced hd _ ih =>
    rw [wellSpaced_cons (ne_of_digit hd rfl)]
    exact ih

theorem IsRun.isNumeralChar (h : IsRun run digits) : ∀ c ∈ run, isNumeralChar c = true := by
  induction h with
  | last hd => simpa using isNumeralChar_of_digit hd
  | digit hd _ ih => exact List.forall_mem_cons.mpr ⟨isNumeralChar_of_digit hd, ih⟩
  | spaced hd _ ih =>
    exact List.forall_mem_cons.mpr ⟨isNumeralChar_of_digit hd, List.forall_mem_cons.mpr ⟨rfl, ih⟩⟩

theorem IsRun.filterMap (h : IsRun run digits) : run.filterMap digitValue? = digits := by
  induction h with
  | last hd => rw [List.filterMap_cons_some hd, List.filterMap_nil]
  | digit hd _ ih => rw [List.filterMap_cons_some hd, ih]
  | spaced hd _ ih => rw [List.filterMap_cons_some hd, List.filterMap_cons_none rfl, ih]

theorem isRun_iff : IsRun run digits ↔ (∀ c ∈ run, isNumeralChar c = true) ∧
    wellSpaced false run = true ∧ run.filterMap digitValue? = digits := by
  constructor
  · exact fun h => ⟨h.isNumeralChar, h.wellSpaced, h.filterMap⟩
  · rintro ⟨hrun, hspaced, rfl⟩
    exact (isRun_of_wellSpaced hrun).1 hspaced

theorem IsRun.exists_head (h : IsRun run digits) :
    ∃ c rest d, run = c :: rest ∧ digitValue? c = some d := by
  cases h with
  | last hd | digit hd _ | spaced hd _ => exact ⟨_, _, _, rfl, hd⟩

theorem ofDigits_eq (digits : List Nat) : ofDigits digits = Nat.ofDigits 10 digits.reverse := by
  rw [Nat.ofDigits_eq_foldr, List.foldr_reverse, ofDigits]
  simp [Nat.add_comm]

/-! ## Reading -/

/-- Whitespace ends a run. -/
theorem span_run (hrun : IsRun run digits) (hafter : IsWhite after) :
    (run ++ after).takeWhile isNumeralChar = run ∧
      (run ++ after).dropWhile isNumeralChar = after := by
  rw [List.takeWhile_append_of_pos hrun.isNumeralChar,
    List.dropWhile_append_of_pos hrun.isNumeralChar]
  cases after with
  | nil => simp
  | cons c rest =>
    have hc := isNumeralChar_of_whiteSpace (hafter c List.mem_cons_self)
    rw [List.takeWhile_cons_of_neg (by simp [hc]), List.dropWhile_cons_of_neg (by simp [hc])]
    simp

theorem splitSign_of_isSigned {signed : List Char} (h : IsSigned signed digits n)
    (after : List Char) : ∃ negative run, splitSign (signed ++ after) = (negative, run ++ after) ∧
      IsRun run digits ∧ n = if negative then -(ofDigits digits : ℤ) else ofDigits digits := by
  rw [ofDigits_eq]
  cases h with
  | plus hrun => exact ⟨false, _, rfl, hrun, rfl⟩
  | minus hrun => exact ⟨true, _, rfl, hrun, rfl⟩
  | plain hrun =>
    refine ⟨false, _, ?_, hrun, rfl⟩
    obtain ⟨c, rest, d, rfl, hd⟩ := hrun.exists_head
    unfold splitSign
    split
    · rename_i h
      exact absurd (List.cons.inj h).1 (ne_of_digit hd rfl)
    · rename_i h
      exact absurd (List.cons.inj h).1 (ne_of_digit hd rfl)
    · rfl

theorem exists_isSigned {s : List Char} {negative : Bool}
    (h : splitSign s = (negative, run ++ after)) (hrun : IsRun run digits) :
    ∃ signed, s = signed ++ after ∧
      IsSigned signed digits (if negative then -(ofDigits digits : ℤ) else ofDigits digits) := by
  rw [ofDigits_eq]
  unfold splitSign at h
  split at h
  · obtain ⟨rfl, rfl⟩ := Prod.mk.inj h
    exact ⟨_, rfl, .minus hrun⟩
  · obtain ⟨rfl, rfl⟩ := Prod.mk.inj h
    exact ⟨_, rfl, .plus hrun⟩
  · obtain ⟨rfl, rfl⟩ := Prod.mk.inj h
    exact ⟨_, rfl, .plain hrun⟩

theorem parseInt_of_splitSign {negative : Bool} {body : List Char}
    (h : splitSign (text.dropWhile isNumeralBlank) = (negative, body))
    (hrun : body.takeWhile isNumeralChar = run) (hafter : body.dropWhile isNumeralChar = after)
    (hdigits : run.filterMap digitValue? = digits) :
    parseInt text = .ok n ↔ wellSpaced false run = true ∧ digits.length ≤ maxDigits ∧
      IsWhite after ∧ n = if negative then -(ofDigits digits : ℤ) else ofDigits digits := by
  unfold parseInt
  rw [h]
  dsimp only
  rw [hrun, hafter, hdigits]
  by_cases hspaced : wellSpaced false run = true
  swap
  · rw [if_pos (by simp [hspaced])]
    exact iff_of_false nofun fun h => hspaced h.1
  rw [if_neg (by simp [hspaced])]
  by_cases hcount : digits.length ≤ maxDigits
  swap
  · rw [if_pos (Nat.lt_of_not_le hcount)]
    exact iff_of_false nofun fun h => hcount h.2.1
  rw [if_neg (Nat.not_lt_of_le hcount)]
  have hwhite : after.all isNumeralBlank = true ↔ IsWhite after := by
    simp only [List.all_eq_true, isNumeralBlank_iff, IsWhite]
  by_cases hall : IsWhite after
  swap
  · rw [if_pos (by simpa using mt hwhite.mp hall)]
    exact iff_of_false nofun fun h => hall h.2.2.1
  rw [if_neg (by simpa using hwhite.mpr hall), Except.ok.injEq]
  exact ⟨fun h => ⟨hspaced, hcount, hall, h.symm⟩, fun h => h.2.2.2.symm⟩

/-- A sign or a digit is no whitespace. -/
theorem IsSigned.dropWhile {signed : List Char} (h : IsSigned signed digits n) (after : List Char) :
    (signed ++ after).dropWhile isNumeralBlank = signed ++ after := by
  cases h with
  | plus => exact List.dropWhile_cons_of_neg (by decide)
  | minus => exact List.dropWhile_cons_of_neg (by decide)
  | plain hrun =>
    obtain ⟨c, rest, d, rfl, hd⟩ := hrun.exists_head
    exact List.dropWhile_cons_of_neg fun h => not_whiteSpace_of_digit hd (isNumeralBlank_iff.mp h)

/-- **What is read as an integer.** -/
theorem parseInt_eq_ok : parseInt text = .ok n ↔ IsNumeral text n := by
  constructor
  · intro h
    cases hsign : splitSign (text.dropWhile isNumeralBlank) with
    | mk negative body =>
      obtain ⟨hspaced, hcount, hafter, rfl⟩ := (parseInt_of_splitSign hsign rfl rfl rfl).mp h
      -- What is taken behind the sign is a run, and what is left is whitespace.
      have hrun := isRun_iff.mpr ⟨fun _ => List.mem_takeWhile_imp, hspaced, rfl⟩
      rw [← List.takeWhile_append_dropWhile (p := isNumeralChar) (l := body)] at hsign
      obtain ⟨signed, hsigned, hn⟩ := exists_isSigned hsign hrun
      refine ⟨text.takeWhile isNumeralBlank, signed, _, _, ?_, fun c hc => ?_, hn, hcount, hafter⟩
      · rw [← hsigned, List.takeWhile_append_dropWhile]
      · exact isNumeralBlank_iff.mp (List.mem_takeWhile_imp hc)
  · rintro ⟨before, signed, after, digits, rfl, hbefore, hsigned, hcount, hafter⟩
    obtain ⟨negative, run, hsign, hrun, rfl⟩ := splitSign_of_isSigned hsigned after
    have hdrop : (before ++ (signed ++ after)).dropWhile isNumeralBlank = signed ++ after := by
      rw [List.dropWhile_append_of_pos fun c hc => isNumeralBlank_iff.mpr (hbefore c hc)]
      exact hsigned.dropWhile after
    rw [← hdrop] at hsign
    obtain ⟨htake, hrest⟩ := span_run hrun hafter
    exact (parseInt_of_splitSign hsign htake hrest hrun.filterMap).mpr
      ⟨hrun.wellSpaced, hcount, hafter, rfl⟩

/-! ## Writing -/

theorem isRun_of_isDigit (hne : run ≠ []) (h : ∀ c ∈ run, c.isDigit = true) :
    IsRun run (run.map fun c => c.toNat - '0'.toNat) := by
  induction run with
  | nil => exact absurd rfl hne
  | cons c rest ih =>
    have hc : digitValue? c = some (c.toNat - '0'.toNat) := by
      have hdigit := h c List.mem_cons_self
      have hascii : c.toNat < 128 := by
        rw [Char.isDigit_iff_toNat] at hdigit
        exact Nat.lt_of_le_of_lt hdigit.2 (by decide)
      rw [digitValue?, if_pos hascii, if_pos hdigit]
      rfl
    cases rest with
    | nil => exact .last hc
    | cons other rest =>
      exact .digit hc (ih (List.cons_ne_nil _ _) fun c hc => h c (List.mem_cons_of_mem _ hc))

/-- The values of the decimal digits of a number. -/
def digitsOf (n : Nat) : List Nat :=
  (Nat.toDigits 10 n).map fun c => c.toNat - '0'.toNat

theorem isRun_toDigits (n : Nat) : IsRun (Nat.toDigits 10 n) (digitsOf n) :=
  isRun_of_isDigit Nat.toDigits_ne_nil fun _ => Nat.isDigit_of_mem_toDigits (by decide) le_rfl

theorem ofDigits_digitsOf (n : Nat) : Nat.ofDigits 10 (digitsOf n).reverse = n := by
  rw [← ofDigits_eq, ofDigits, digitsOf, List.foldl_map, ← Nat.ofDigitChars_eq_foldl]
  exact Nat.ofDigitChars_ten_toDigits

/-- An integer in decimal stands for itself. -/
theorem isSigned_toString (n : ℤ) : IsSigned (toString n).toList (digitsOf n.natAbs) n := by
  rw [Int.toString_eq_repr, Int.repr_eq_if]
  have hrun := isRun_toDigits n.natAbs
  have hvalue := ofDigits_digitsOf n.natAbs
  split_ifs with hpos
  · have hnat : n.toNat = n.natAbs := by omega
    have hplain := IsSigned.plain hrun
    rw [hvalue, Int.natAbs_of_nonneg hpos] at hplain
    rwa [Nat.toList_repr, hnat]
  · have hnat : (-n).toNat = n.natAbs := by omega
    have hminus := IsSigned.minus hrun
    rw [hvalue, Int.ofNat_natAbs_of_nonpos (by omega), neg_neg] at hminus
    rwa [String.toList_append, Nat.toList_repr, hnat]

end ProblemMatcher.Text
