import ProblemMatcher.Proofs.Json.Literal
import ProblemMatcher.Text.Whitespace

/-!
# Where quotes stand

What a value without members is read from, as far as quotes go. Inside a literal a quote has a
backslash in front; in a number or a word there is none. And such a value is told from an array, an
object and whitespace by its first character.

1. `Spells.quote_escaped`: the quotes inside a literal.
2. `passes_of_readScalar`: a value that is no literal is read from text without quotes.
3. `startsScalar_of_readScalar`: the characters such a value starts with.
-/

namespace ProblemMatcher.Json

open ProblemMatcher.Text

/-! ## Text without quotes -/

/-- What was read between two places has no quote in it. -/
def Passes (s rest : List Char) : Prop :=
  ∃ read, s = read ++ rest ∧ '"' ∉ read

namespace Passes

theorem refl (s : List Char) : Passes s s :=
  ⟨[], rfl, List.not_mem_nil⟩

theorem trans {s mid rest : List Char} (h : Passes s mid) (h' : Passes mid rest) :
    Passes s rest := by
  obtain ⟨read, rfl, hread⟩ := h
  obtain ⟨read', rfl, hread'⟩ := h'
  exact ⟨read ++ read', by simp, by simp [hread, hread']⟩

theorem cons {c : Char} (hc : c ≠ '"') {s rest : List Char} (h : Passes s rest) :
    Passes (c :: s) rest := by
  obtain ⟨read, rfl, hread⟩ := h
  exact ⟨c :: read, rfl, by simp [hread, Ne.symm hc]⟩

/-- A quote is behind what has none. -/
theorem exists_before {s rest before after : List Char} (h : Passes s rest)
    (heq : s = before ++ '"' :: after) :
    ∃ read before', before = read ++ before' ∧ rest = before' ++ '"' :: after := by
  obtain ⟨read, rfl, hread⟩ := h
  obtain ⟨before', hbefore, hrest⟩ | ⟨quoted, hquoted, hrest⟩ := List.append_eq_append_iff.mp heq
  · exact ⟨read, before', hbefore, hrest⟩
  · cases quoted with
    | nil => exact ⟨read, [], by simpa using hquoted.symm, by simpa using hrest.symm⟩
    | cons c quoted =>
      cases hrest
      simp [hquoted] at hread

theorem dropWhile {p : Char → Bool} (hp : p '"' = false) (s : List Char) :
    Passes s (s.dropWhile p) := by
  refine ⟨s.takeWhile p, List.takeWhile_append_dropWhile.symm, fun hmem => ?_⟩
  have := List.mem_takeWhile_imp hmem
  simp [hp] at this

theorem skipSpace (s : List Char) : Passes s (skipSpace s) :=
  dropWhile rfl s

end Passes

/-! ## Literals -/

theorem ne_quote_of_hexValue? {c : Char} {n : Nat} (h : hexValue? c = some n) : c ≠ '"' := by
  rintro rfl
  simp [hexValue?] at h

theorem ne_quote_of_hexQuad? {a b c d : Char} {u : Nat} (h : hexQuad? a b c d = some u) :
    a ≠ '"' ∧ b ≠ '"' ∧ c ≠ '"' ∧ d ≠ '"' := by
  unfold hexQuad? at h
  split at h
  · next ha hb hc hd =>
    exact ⟨ne_quote_of_hexValue? ha, ne_quote_of_hexValue? hb, ne_quote_of_hexValue? hc,
      ne_quote_of_hexValue? hd⟩
  · cases h

theorem passes_unit {a b c d : Char} {u : Nat} (h : hexQuad? a b c d = some u) (s : List Char) :
    Passes ('\\' :: 'u' :: a :: b :: c :: d :: s) s := by
  obtain ⟨ha, hb, hc, hd⟩ := ne_quote_of_hexQuad? h
  exact .cons (by decide) (.cons (by decide) (.cons ha (.cons hb (.cons hc (.cons hd (.refl s))))))

/-- A quote inside a literal has a backslash in front. -/
theorem Spells.quote_escaped {s cs rest before after : List Char} (h : Spells s cs rest)
    (heq : s = before ++ '"' :: after) (hlt : rest.length < after.length) :
    before.getLast? = some '\\' := by
  -- what was read in front of the rest of a literal has no quote of its own
  have hbehind : ∀ {s' rest' before : List Char}, Passes s' rest' →
      (∀ before', rest' = before' ++ '"' :: after → before'.getLast? = some '\\') →
      s' = before ++ '"' :: after → before.getLast? = some '\\' := by
    intro s' rest' before hpass ih heq
    obtain ⟨read, before', rfl, hrest⟩ := hpass.exists_before heq
    simp [List.getLast?_append, ih before' hrest]
  induction h generalizing before with
  | close =>
    have hlength := congrArg List.length heq
    simp at hlength
    omega
  | plain hquote _ _ _ ih =>
    exact hbehind (.cons hquote (.refl _)) (fun _ heq => ih heq hlt) heq
  -- the one case where a quote may be read, and then the backslash is in front of it
  | short _ _ ih =>
    match before, heq with
    | [_], heq => rw [← (List.cons.inj heq).1]; rfl
    | _ :: _ :: before, heq =>
      simp only [List.cons_append, List.cons.injEq] at heq
      simp [List.getLast?_cons, ih heq.2.2 hlt]
  | unit hu _ _ ih => exact hbehind (passes_unit hu _) (fun _ heq => ih heq hlt) heq
  | pair hu _ hv _ _ ih =>
    exact hbehind ((passes_unit hu _).trans (passes_unit hv _)) (fun _ heq => ih heq hlt) heq

/-! ## Numbers and words -/

theorem passes_digits (s : List Char) : Passes s (digits s).2 := by
  rw [digits, List.span_eq_takeWhile_dropWhile]
  exact .dropWhile rfl s

theorem passes_fraction (s : List Char) : Passes s (fraction s).2 := by
  unfold fraction
  split
  · split
    · exact .cons (by decide) (passes_digits _)
    · exact .refl _
  · exact .refl _

theorem passes_splitExponentSign (s : List Char) : Passes s (splitExponentSign s).2 := by
  unfold splitExponentSign
  split
  · exact .cons (by decide) (.refl _)
  · exact .cons (by decide) (.refl _)
  · exact .refl _

theorem passes_exponent? (s : List Char) : Passes s (exponent? s).2 := by
  unfold exponent?
  split
  · exact .refl _
  · next c rest =>
    dsimp only
    split
    · next hc =>
      have hletter : c ≠ '"' := by
        rintro rfl
        simp at hc
      split
      · exact .refl _
      · exact .cons hletter ((passes_splitExponentSign rest).trans (passes_digits _))
    · exact .refl _

theorem passes_wholeDigits {s whole rest : List Char} (h : wholeDigits s = some (whole, rest)) :
    Passes s rest := by
  unfold wholeDigits at h
  split at h
  · cases h
  · next c s =>
    split_ifs at h with hzero hdigit
    · cases h
      exact .cons (by simp [hzero]) (.refl _)
    · have hdigits := passes_digits (c :: s)
      simp only [Option.some.injEq] at h
      rwa [h] at hdigits

theorem passes_readNumber {start s rest : List Char} {negative : Bool} {v : Value}
    (h : readNumber start negative s = .ok (v, rest)) : Passes s rest := by
  unfold readNumber at h
  split at h
  · cases h
  · next whole s' hwhole =>
    have hpass := (passes_wholeDigits hwhole).trans
      ((passes_fraction s').trans (passes_exponent? _))
    dsimp only at h
    split_ifs at h
    all_goals
      cases h
      exact hpass

theorem eq_append_of_dropWord? {word s rest : List Char} (h : dropWord? word s = some rest) :
    s = word ++ rest := by
  unfold dropWord? at h
  split at h
  · next hword =>
    obtain ⟨rest', rfl⟩ := List.isPrefixOf_iff_prefix.mp hword
    simpa using h
  · cases h

theorem exists_word_of_readWord? {s rest : List Char} {v : Value}
    (h : readWord? s = some (v, rest)) : ∃ word, (word, v) ∈ words ∧ s = word ++ rest := by
  obtain ⟨⟨word, v'⟩, hmem, hword⟩ := List.exists_of_findSome?_eq_some h
  obtain ⟨rest', hdrop, heq⟩ := Option.map_eq_some_iff.mp hword
  cases heq
  exact ⟨word, hmem, eq_append_of_dropWord? hdrop⟩

theorem quote_notMem_word : ∀ word ∈ words, '"' ∉ word.1 := by
  simp [words]

/-- A value that is no literal is read from text without quotes. -/
theorem passes_of_readScalar {s rest : List Char} {v : Value} (hs : s.head? ≠ some '"')
    (h : readScalar s = .ok (v, rest)) : Passes s rest := by
  unfold readScalar at h
  split at h
  · next found hword =>
    cases h
    obtain ⟨word, hmem, rfl⟩ := exists_word_of_readWord? hword
    exact ⟨word, rfl, quote_notMem_word _ hmem⟩
  · split at h
    · exact absurd rfl hs
    · exact .cons (by decide) (passes_readNumber h)
    · exact passes_readNumber h

/-- A value that holds no others. -/
def Value.IsScalar : Value → Prop
  | .arr _ | .obj _ => False
  | _ => True

theorem isScalar_of_readScalar {s rest : List Char} {v : Value}
    (h : readScalar s = .ok (v, rest)) : v.IsScalar := by
  have hnumber : ∀ {start negative s}, readNumber start negative s = .ok (v, rest) →
      v.IsScalar := by
    intro start negative s h
    unfold readNumber at h
    split at h
    · cases h
    · dsimp only at h
      split_ifs at h
      all_goals
        cases h
        trivial
  have hwords : ∀ word ∈ words, word.2.IsScalar := by simp [words, Value.IsScalar]
  unfold readScalar at h
  split at h
  · next found hword =>
    cases h
    obtain ⟨word, hmem, -⟩ := exists_word_of_readWord? hword
    exact hwords _ hmem
  · split at h
    · obtain ⟨read, -, heq⟩ := map_eq_ok.mp h
      cases heq
      trivial
    · exact hnumber h
    · exact hnumber h

/-! ## First characters -/

/-- The characters that literals, numbers and words start with. -/
def startsScalar (c : Char) : Bool :=
  c == '"' || c == '-' || c.isDigit || ['n', 't', 'f', 'N', 'I'].contains c

theorem isDigit_of_wholeDigits {s : List Char} {found : List Char × List Char}
    (h : wholeDigits s = some found) : ∃ c t, s = c :: t ∧ c.isDigit = true := by
  unfold wholeDigits at h
  split at h
  · cases h
  · next c t =>
    refine ⟨c, t, rfl, ?_⟩
    split_ifs at h with hzero hdigit
    · subst hzero
      rfl
    · exact hdigit

theorem startsScalar_of_readScalar {s rest : List Char} {v : Value}
    (h : readScalar s = .ok (v, rest)) : ∃ c t, s = c :: t ∧ startsScalar c = true := by
  have hnumber : ∀ {start negative s}, readNumber start negative s = .ok (v, rest) →
      ∃ c t, s = c :: t ∧ c.isDigit = true := by
    intro start negative s h
    unfold readNumber at h
    split at h
    · cases h
    · next hwhole => exact isDigit_of_wholeDigits hwhole
  unfold readScalar at h
  split at h
  · next found hword =>
    obtain ⟨word, hmem, rfl⟩ := exists_word_of_readWord? hword
    have hwords : ∀ word ∈ words, ∃ c t, word.1 = c :: t ∧ startsScalar c = true := by
      simp [words, startsScalar]
    obtain ⟨c, t, rfl, hc⟩ := hwords _ hmem
    exact ⟨c, t ++ found.2, rfl, hc⟩
  · split at h
    · exact ⟨_, _, rfl, rfl⟩
    · exact ⟨_, _, rfl, rfl⟩
    · obtain ⟨c, t, rfl, hc⟩ := hnumber h
      exact ⟨c, t, rfl, by simp [startsScalar, hc]⟩

theorem not_startsScalar_of_isBlank {c : Char} (h : isBlank c = true) : ¬startsScalar c = true := by
  intro hstart
  simp only [startsScalar, Bool.or_eq_true, beq_iff_eq, List.contains_eq_mem, List.mem_cons,
    List.not_mem_nil, or_false, decide_eq_true_eq] at hstart
  rcases hstart with ((rfl | rfl) | hdigit) | rfl | rfl | rfl | rfl | rfl
  case inl.inr =>
    -- a digit is no blank by its code
    have hrange : 48 ≤ c.toNat ∧ c.toNat ≤ 57 := by
      simpa [Char.isDigit, UInt32.le_iff_toNat_le] using hdigit
    have hascii : c.toNat < 128 := by omega
    simp [isBlank, isAsciiBlank, hascii] at h
    omega
  all_goals simp [isBlank, isAsciiBlank] at h

end ProblemMatcher.Json
