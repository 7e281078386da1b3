import ProblemMatcher.Text.Utf8
import Mathlib

/-!
# Decoding UTF-8

Bytes can be decoded exactly when they are the encoding of a text, and then give this text.

1. `isContinuation_iff`, `isSecond_iff`, `sequenceLength?_eq_some`: what a byte may be, as a number.
2. `utf8EncodeChar_eq_cons`: the bytes of a character are those that the decoder accepts, and their
   code point is that of the character.
3. `decodeUtf8_eq_ok`: a text is decoded character by character, by induction on what is left.
-/

namespace ProblemMatcher.Text

/-- The bytes of a text. -/
def encodeUtf8 (text : List Char) : List UInt8 :=
  text.flatMap String.utf8EncodeChar

theorem encodeUtf8_nil : encodeUtf8 [] = [] := rfl

theorem encodeUtf8_cons (c : Char) (rest : List Char) :
    encodeUtf8 (c :: rest) = String.utf8EncodeChar c ++ encodeUtf8 rest := rfl

/-! ## Bytes as numbers -/

theorem isContinuation_iff {b : UInt8} : isContinuation b ↔ 0x80 ≤ b.toNat ∧ b.toNat < 0xC0 := by
  simp [isContinuation, UInt8.le_iff_toNat_le, UInt8.lt_iff_toNat_lt]

theorem isSecond_iff {first second : UInt8} : isSecond first second ↔
    (0x80 ≤ second.toNat ∧ second.toNat < 0xC0) ∧ (first.toNat = 0xE0 → 0xA0 ≤ second.toNat) ∧
      (first.toNat = 0xED → second.toNat < 0xA0) ∧ (first.toNat = 0xF0 → 0x90 ≤ second.toNat) ∧
      (first.toNat = 0xF4 → second.toNat < 0x90) := by
  simp only [isSecond, Bool.and_eq_true, isContinuation_iff, Bool.not_eq_true',
    Bool.and_eq_false_iff, beq_eq_false_iff_ne, decide_eq_false_iff_not, ← UInt8.toNat_inj, UInt8.le_iff_toNat_le,
    UInt8.lt_iff_toNat_lt, ne_eq, UInt8.toNat_ofNat, Nat.reducePow, Nat.reduceMod, not_lt, not_le,
    imp_iff_not_or, and_assoc]

theorem sequenceLength?_eq_some {b : UInt8} {n : ℕ} : sequenceLength? b = some n ↔
    (n = 1 ∧ b.toNat < 0x80) ∨ (n = 2 ∧ 0xC2 ≤ b.toNat ∧ b.toNat < 0xE0) ∨
      (n = 3 ∧ 0xE0 ≤ b.toNat ∧ b.toNat < 0xF0) ∨ (n = 4 ∧ 0xF0 ≤ b.toNat ∧ b.toNat < 0xF5) := by
  simp only [sequenceLength?, Bool.and_eq_true, decide_eq_true_eq, UInt8.le_iff_toNat_le,
    UInt8.lt_iff_toNat_lt, UInt8.toNat_ofNat, Nat.reducePow, Nat.reduceMod]
  split_ifs <;> simp <;> omega

/-! ## One character -/

/-- The bytes may follow the first one of a character. -/
def Follow (first : UInt8) : List UInt8 → Prop
  | [] => True
  | second :: rest => isSecond first second ∧ ∀ b ∈ rest, isContinuation b

theorem soundBytes_le (first : UInt8) (tail : List UInt8) :
    soundBytes first tail ≤ tail.length + 1 := by
  cases tail with
  | nil => exact Nat.le_refl 1
  | cons second rest =>
    have := (rest.takeWhile_sublist isContinuation).length_le
    rw [soundBytes, List.length_cons]
    split_ifs <;> omega

theorem soundBytes_eq_iff {first : UInt8} {tail : List UInt8} :
    soundBytes first tail = tail.length + 1 ↔ Follow first tail := by
  cases tail with
  | nil => simp [soundBytes, Follow]
  | cons second rest =>
    rw [soundBytes, Follow, List.length_cons]
    split_ifs with hsecond
    · have hall : (rest.takeWhile isContinuation).length = rest.length ↔
          ∀ b ∈ rest, isContinuation b := by
        rw [← List.takeWhile_eq_self_iff]
        exact ⟨(rest.takeWhile_prefix isContinuation).eq_of_length, congrArg List.length⟩
      rw [← hall]
      constructor
      · exact fun h => ⟨hsecond, by omega⟩
      · rintro ⟨-, h⟩
        omega
    · simp [hsecond]

theorem toNat_charOfNat {n : ℕ} (h : n < 0xD800 ∨ 0xDFFF < n ∧ n < 0x110000) :
    (Char.ofNat n).toNat = n := by
  rw [Char.toNat_ofNat, if_pos h]

/-- The bytes of a character are a first byte and what may follow it, as many as the first byte
says, and make up its code point. -/
theorem follow_of_utf8EncodeChar {c : Char} {first : UInt8} {tail : List UInt8}
    (h : String.utf8EncodeChar c = first :: tail) :
    sequenceLength? first = some (tail.length + 1) ∧ Follow first tail ∧
      codePoint first tail = c.toNat := by
  have hvalid : c.toNat < 0xD800 ∨ 0xDFFF < c.toNat ∧ c.toNat < 0x110000 := c.valid
  simp only [String.utf8EncodeChar, Char.toNat_val] at h
  generalize c.toNat = n at h hvalid ⊢
  -- One case for each number of bytes.
  split_ifs at h
  all_goals
    obtain ⟨rfl, rfl⟩ := List.cons.inj h
    simp only [sequenceLength?_eq_some, Follow, isSecond_iff, isContinuation_iff, codePoint,
      List.forall_mem_cons, List.not_mem_nil, false_imp_iff, implies_true, List.length_cons,
      List.length_nil, UInt8.toNat_ofNat', List.foldl_cons, List.foldl_nil, true_and, and_true]
    omega

/-- A first byte and what may follow it are the bytes of the character with their code point. -/
theorem utf8EncodeChar_of_follow {first : UInt8} {tail : List UInt8}
    (hlength : sequenceLength? first = some (tail.length + 1)) (htail : Follow first tail) :
    String.utf8EncodeChar (Char.ofNat (codePoint first tail)) = first :: tail := by
  rw [sequenceLength?_eq_some] at hlength
  have hfirst := first.toNat_lt
  generalize hn : codePoint first tail = n
  rcases tail with _ | ⟨second, _ | ⟨third, _ | ⟨fourth, _ | ⟨fifth, rest⟩⟩⟩⟩
  on_goal 5 =>
    simp only [List.length_cons] at hlength
    omega
  all_goals
    simp only [Follow, isSecond_iff, isContinuation_iff, List.forall_mem_cons, List.not_mem_nil,
      false_imp_iff, implies_true, and_true, List.length_cons, List.length_nil] at htail hlength
    simp only [codePoint, List.length_cons, List.length_nil, List.foldl_cons, List.foldl_nil] at hn
    rw [String.utf8EncodeChar, Char.toNat_val, toNat_charOfNat (by omega)]
    split_ifs
    all_goals
      simp only [List.cons.injEq, ← UInt8.toNat_inj, UInt8.toNat_ofNat', reduceCtorEq, and_true,
        and_false]
      omega

/-- **The bytes of a character**: a first byte and what may follow it, as many as the first byte
says. They make up its code point. -/
theorem utf8EncodeChar_eq_cons {c : Char} {first : UInt8} {tail : List UInt8} :
    String.utf8EncodeChar c = first :: tail ↔
      sequenceLength? first = some (tail.length + 1) ∧ Follow first tail ∧
        c = Char.ofNat (codePoint first tail) := by
  constructor
  · intro h
    obtain ⟨hlength, htail, hpoint⟩ := follow_of_utf8EncodeChar h
    exact ⟨hlength, htail, by rw [hpoint, Char.ofNat_toNat]⟩
  · rintro ⟨hlength, htail, rfl⟩
    exact utf8EncodeChar_of_follow hlength htail

/-! ## Texts -/

/-- A character of one byte has no others to be sound. -/
theorem ite_soundBytes (first : UInt8) (rest : List UInt8) (length : ℕ) :
    (if length = 1 then 1 else soundBytes first (rest.take (length - 1))) =
      soundBytes first (rest.take (length - 1)) := by
  split_ifs with h
  · subst h
    rfl
  · rfl

variable {left pos : ℕ} {read text : List Char} {bytes : List UInt8}

/-- A character is decoded from its bytes. -/
theorem decodeUtf8From_append (c : Char) :
    decodeUtf8From (left + 1) pos read (String.utf8EncodeChar c ++ bytes) =
      decodeUtf8From left (pos + (String.utf8EncodeChar c).length) (c :: read) bytes := by
  obtain ⟨first, tail, h⟩ := List.exists_cons_of_ne_nil (String.utf8EncodeChar_ne_nil (c := c))
  obtain ⟨hlength, htail, rfl⟩ := utf8EncodeChar_eq_cons.mp h
  rw [h, List.cons_append, decodeUtf8From, hlength]
  dsimp only
  rw [ite_soundBytes, Nat.add_sub_cancel, List.take_left, List.drop_left,
    if_pos (soundBytes_eq_iff.mpr htail), List.length_cons]

/-- Bytes that are decoded start with those of a character. -/
theorem exists_of_decodeUtf8From {first : UInt8} {rest : List UInt8}
    (h : decodeUtf8From (left + 1) pos read (first :: rest) = .ok text) :
    ∃ c more, first :: rest = String.utf8EncodeChar c ++ more := by
  unfold decodeUtf8From at h
  split at h
  · cases h
  · rename_i length hlength
    dsimp only at h
    rw [ite_soundBytes] at h
    split_ifs at h with hsound
    -- The bytes behind the first one are as many as there should be.
    have hle := soundBytes_le first (rest.take (length - 1))
    have htake := rest.length_take_le (length - 1)
    have hcount : (rest.take (length - 1)).length + 1 = length := by
      have := sequenceLength?_eq_some.mp hlength
      omega
    have htail := soundBytes_eq_iff.mp (hsound.trans hcount.symm)
    refine ⟨Char.ofNat (codePoint first (rest.take (length - 1))), rest.drop (length - 1), ?_⟩
    rw [utf8EncodeChar_of_follow (by rw [hlength, hcount]) htail, List.cons_append,
      List.take_append_drop]

/-- A text is decoded from its bytes, character by character. -/
theorem decodeUtf8From_encodeUtf8 (h : text.length ≤ left) :
    decodeUtf8From left pos read (encodeUtf8 text) = .ok (read.reverse ++ text) := by
  induction text generalizing left pos read with
  | nil =>
    rw [encodeUtf8_nil, List.append_nil]
    cases left <;> rfl
  | cons c rest ih =>
    obtain ⟨left, rfl⟩ := Nat.exists_eq_succ_of_ne_zero (Nat.ne_zero_of_lt h)
    rw [encodeUtf8_cons, decodeUtf8From_append, ih (Nat.le_of_succ_le_succ h), List.reverse_cons,
      List.append_assoc, List.singleton_append]

/-- Bytes that are decoded are those of a text, since each character takes up a byte at least. -/
theorem exists_eq_encodeUtf8 (h : decodeUtf8From left pos read bytes = .ok text)
    (hleft : bytes.length ≤ left) : ∃ decoded, bytes = encodeUtf8 decoded := by
  induction left generalizing pos read bytes with
  | zero => exact ⟨[], List.eq_nil_of_length_eq_zero (Nat.le_zero.mp hleft)⟩
  | succ left ih =>
    cases bytes with
    | nil => exact ⟨[], rfl⟩
    | cons first rest =>
      obtain ⟨c, others, hbytes⟩ := exists_of_decodeUtf8From h
      rw [hbytes] at h hleft ⊢
      rw [decodeUtf8From_append] at h
      have hpos := List.length_pos_of_ne_nil (String.utf8EncodeChar_ne_nil (c := c))
      rw [List.length_append] at hleft
      obtain ⟨decoded, rfl⟩ := ih h (by omega)
      exact ⟨c :: decoded, rfl⟩

theorem length_le_encodeUtf8 (text : List Char) : text.length ≤ (encodeUtf8 text).length := by
  induction text with
  | nil => exact Nat.le_refl 0
  | cons c rest ih =>
    have hpos := List.length_pos_of_ne_nil (String.utf8EncodeChar_ne_nil (c := c))
    rw [encodeUtf8_cons, List.length_append, List.length_cons]
    omega

/-- **Decoding** gives a text from its bytes, and fails on bytes that are those of no text. -/
theorem decodeUtf8_eq_ok : decodeUtf8 bytes = .ok text ↔ bytes = encodeUtf8 text := by
  have hdecoded : ∀ more, decodeUtf8 (encodeUtf8 more) = .ok more := fun more =>
    decodeUtf8From_encodeUtf8 (length_le_encodeUtf8 more)
  constructor
  · intro h
    obtain ⟨more, rfl⟩ := exists_eq_encodeUtf8 h (Nat.le_refl _)
    rw [hdecoded, Except.ok.injEq] at h
    rw [h]
  · rintro rfl
    exact hdecoded text

end ProblemMatcher.Text
