import ProblemMatcher.Json.Reader
import ProblemMatcher.Proofs.Attempt

/-!
# String literals

What a string literal stands for, told without a reader: `Spells s cs rest` says that `s` begins
with the body of a literal and its closing quote, that the body stands for `cs`, and that `rest` is
behind the quote. A literal is read if it spells something, and as what it spells. So it does not
matter what comes behind it, and a quote inside it has a backslash in front. Literals that escape a
lone surrogate stand for no text of characters: here as in the reader they spell the replacement.

1. `spells_of_readString`, `readString_of_spells`: the reader and the relation.
2. `Spells.append`: what is behind a literal does not change it.
-/

namespace ProblemMatcher.Json

/-- The second half of a pair of escaped surrogates. -/
def IsLowEscape (s : List Char) : Prop :=
  ∃ e f g h rest v, s = '\\' :: 'u' :: e :: f :: g :: h :: rest ∧ hexQuad? e f g h = some v ∧
    isLowSurrogate v = true

/-- A text begins with the body of a string literal and its closing quote, the body stands for some
text, and the rest is behind the quote. -/
inductive Spells : List Char → List Char → List Char → Prop
  | close {rest : List Char} : Spells ('"' :: rest) [] rest
  | plain {c : Char} {s cs rest : List Char} (hquote : c ≠ '"') (hslash : c ≠ '\\')
    (hcontrol : ¬c.toNat < 32) (h : Spells s cs rest) : Spells (c :: s) (c :: cs) rest
  | short {c e : Char} {s cs rest : List Char} (he : shortEscape? c = some e)
    (h : Spells s cs rest) : Spells ('\\' :: c :: s) (e :: cs) rest
  | unit {a b c d : Char} {u : Nat} {s cs rest : List Char} (hu : hexQuad? a b c d = some u)
    (halone : isHighSurrogate u = true → ¬IsLowEscape s) (h : Spells s cs rest) :
    Spells ('\\' :: 'u' :: a :: b :: c :: d :: s) (unitChar u :: cs) rest
  | pair {a b c d e f g h : Char} {u v : Nat} {s cs rest : List Char}
    (hu : hexQuad? a b c d = some u) (hhigh : isHighSurrogate u = true)
    (hv : hexQuad? e f g h = some v) (hlow : isLowSurrogate v = true) (hs : Spells s cs rest) :
    Spells ('\\' :: 'u' :: a :: b :: c :: d :: '\\' :: 'u' :: e :: f :: g :: h :: s)
      (Char.ofNat (joinSurrogates u v) :: cs) rest

theorem shortEscape?_u : shortEscape? 'u' = none := by decide

theorem Spells.ne_nil {s cs rest : List Char} (h : Spells s cs rest) : s ≠ [] := by
  cases h <;> simp

theorem Spells.ne_nil_of_backslash {s cs rest : List Char} (h : Spells ('\\' :: s) cs rest) :
    s ≠ [] := by
  cases h with
  | plain _ hslash => exact absurd rfl hslash
  | short | unit | pair => simp

/-- An escaped code unit has four digits, and something behind them. -/
theorem Spells.escape {s cs rest : List Char} (h : Spells ('\\' :: 'u' :: s) cs rest) :
    ∃ a b c d u s', s = a :: b :: c :: d :: s' ∧ hexQuad? a b c d = some u ∧ s' ≠ [] := by
  cases h with
  | plain _ hslash => exact absurd rfl hslash
  | short he => rw [shortEscape?_u] at he; cases he
  | unit hu _ h => exact ⟨_, _, _, _, _, _, rfl, hu, h.ne_nil⟩
  | pair hu => exact ⟨_, _, _, _, _, _, rfl, hu, by simp⟩

/-- What the reader has behind what it had read before is what the text spells. -/
theorem spells_of_readString {opening read s cs rest : List Char}
    (h : readString opening read s = .ok (cs, rest)) :
    ∃ spelt, Spells s spelt rest ∧ cs = read.reverse ++ spelt := by
  fun_induction readString opening read s with
  | case1 | case2 | case3 | case7 | case9 | case10 | case12 | case14 => cases h
  | case4 read a b c d e f g h' next rest' u hu hhigh v hv hlow ih =>
    obtain ⟨spelt, hspells, rfl⟩ := ih h
    exact ⟨_, .pair hu hhigh hv hlow hspells, by simp⟩
  | case5 read a b c d e f g h' next rest' u hu hhigh v hv hlow ih =>
    obtain ⟨spelt, hspells, rfl⟩ := ih h
    refine ⟨_, .unit hu (fun _ => ?_) hspells, by simp⟩
    rintro ⟨_, _, _, _, _, w, heq, hw, hwlow⟩
    cases heq
    rw [hv] at hw
    cases hw
    exact hlow hwlow
  | case6 read a b c d e f g h' next rest' u hu hhigh ih =>
    obtain ⟨spelt, hspells, rfl⟩ := ih h
    exact ⟨_, .unit hu (fun hu => absurd hu hhigh) hspells, by simp⟩
  | case8 read a b c d next rest' halone u hu ih =>
    obtain ⟨spelt, hspells, rfl⟩ := ih h
    refine ⟨_, .unit hu (fun _ => ?_) hspells, by simp⟩
    rintro ⟨e, f, g, h', rest'', v, heq, hv, -⟩
    cases heq
    cases rest'' with
    | nil =>
      obtain ⟨_, _, _, _, _, _, heq, _, hne⟩ := hspells.escape
      cases heq
      exact absurd rfl hne
    | cons n r => exact halone e f g h' n r rfl rfl
  | case11 read c rest' _ _ hu e he ih =>
    obtain ⟨spelt, hspells, rfl⟩ := ih h
    exact ⟨_, .short he hspells, by simp⟩
  | case13 =>
    cases h
    exact ⟨[], .close, by simp⟩
  | case15 read c rest' _ _ _ hlast hslash hquote hcontrol ih =>
    obtain ⟨spelt, hspells, rfl⟩ := ih h
    refine ⟨_, .plain hquote ?_ hcontrol hspells, by simp⟩
    rintro rfl
    cases rest' with
    | nil => exact hlast rfl rfl
    | cons d s => exact hslash d s rfl rfl

theorem readString_of_spells {s cs rest : List Char} (h : Spells s cs rest)
    (opening read : List Char) : readString opening read s = .ok (read.reverse ++ cs, rest) := by
  induction h generalizing read with
  | close => simp [readString]
  | plain hquote hslash hcontrol h ih =>
    rw [readString]
    · simp [hquote, hcontrol, ih]
    all_goals simp [hslash]
  | @short c e s cs rest he h ih =>
    have hu : c ≠ 'u' := by
      rintro rfl
      rw [shortEscape?_u] at he
      cases he
    rw [readString]
    · simp [he, ih]
    all_goals simp [hu]
  | @unit a b c d u s cs rest hu halone h ih =>
    -- the reader asks for two units first, and what is spelt may look like two
    by_cases hpair : ∃ e f g h n s', s = '\\' :: 'u' :: e :: f :: g :: h :: n :: s'
    · obtain ⟨e, f, g, h', n, s', rfl⟩ := hpair
      obtain ⟨_, _, _, _, v, _, heq, hv, -⟩ := h.escape
      cases heq
      by_cases hhigh : isHighSurrogate u = true
      · have hlow : ¬isLowSurrogate v = true :=
          fun hlow => halone hhigh ⟨_, _, _, _, _, _, rfl, hv, hlow⟩
        simp [readString, hu, hhigh, hv, hlow, ih]
      · simp [readString, hu, hhigh, ih]
    · obtain ⟨n, s', rfl⟩ := List.exists_cons_of_ne_nil h.ne_nil
      rw [readString]
      · simp [hu, ih]
      · rintro e f g h' n' r rfl rfl
        exact hpair ⟨_, _, _, _, _, _, rfl⟩
  | pair hu hhigh hv hlow hs ih =>
    obtain ⟨n, s', rfl⟩ := List.exists_cons_of_ne_nil hs.ne_nil
    simp [readString, hu, hhigh, hv, hlow, ih]

/-- A text is the body of one literal at most, and stands for one text. -/
theorem Spells.unique {s cs cs' rest rest' : List Char} (h : Spells s cs rest)
    (h' : Spells s cs' rest') : cs = cs' ∧ rest = rest' := by
  have heq := (readString_of_spells h [] []).symm.trans (readString_of_spells h' [] [])
  simpa using heq

/-- What is behind a literal does not change it. -/
theorem Spells.append {s cs rest : List Char} (h : Spells s cs rest) (t : List Char) :
    Spells (s ++ t) cs (rest ++ t) := by
  induction h with
  | close => exact .close
  | plain hquote hslash hcontrol _ ih => exact .plain hquote hslash hcontrol ih
  | short he _ ih => exact .short he ih
  | pair hu hhigh hv hlow _ ih => exact .pair hu hhigh hv hlow ih
  | @unit a b c d u s cs rest hu halone h ih =>
    show Spells ('\\' :: 'u' :: a :: b :: c :: d :: (s ++ t)) _ _
    refine .unit hu (fun hhigh => ?_) ih
    rintro ⟨e, f, g, h', r, v, heq, hv, hlow⟩
    apply halone hhigh
    -- a low half that ends in `t` would leave the literal open
    obtain ⟨x, s, rfl⟩ := List.exists_cons_of_ne_nil h.ne_nil
    simp only [List.cons_append, List.cons.injEq] at heq
    obtain ⟨rfl, heq⟩ := heq
    obtain ⟨y, s, rfl⟩ := List.exists_cons_of_ne_nil h.ne_nil_of_backslash
    simp only [List.cons_append, List.cons.injEq] at heq
    obtain ⟨rfl, heq⟩ := heq
    obtain ⟨_, _, _, _, _, s', rfl, -⟩ := h.escape
    simp only [List.cons_append, List.cons.injEq] at heq
    obtain ⟨rfl, rfl, rfl, rfl, -⟩ := heq
    exact ⟨_, _, _, _, s', v, rfl, hv, hlow⟩

/-! ## Literals as values and names -/

theorem readScalar_quote (s : List Char) : readScalar ('"' :: s) =
    (readString ('"' :: s) [] s).map fun (cs, rest) => (.str (String.ofList cs), rest) := by
  have hword : readWord? ('"' :: s) = none := by simp [readWord?, words, dropWord?]
  simp [readScalar, hword]

theorem readScalar_quote_eq_ok {s rest : List Char} {v : Value} :
    readScalar ('"' :: s) = .ok (v, rest) ↔ ∃ cs, Spells s cs rest ∧ v = .str (String.ofList cs) := by
  rw [readScalar_quote]
  constructor
  · intro h
    obtain ⟨⟨cs, rest'⟩, hread, heq⟩ := map_eq_ok.mp h
    cases heq
    obtain ⟨spelt, hspells, rfl⟩ := spells_of_readString hread
    exact ⟨_, hspells, rfl⟩
  · rintro ⟨cs, hspells, rfl⟩
    rw [readString_of_spells hspells]
    rfl

theorem readName_eq_ok {s start : List Char} {name : String} :
    readName s = .ok (name, start) ↔ ∃ t cs behind colon, s = '"' :: t ∧ Spells t cs behind ∧
      skipSpace behind = ':' :: colon ∧ name = String.ofList cs ∧ start = skipSpace colon := by
  constructor
  · intro h
    unfold readName at h
    split at h
    · next t =>
      obtain ⟨⟨cs, behind⟩, hread, h⟩ := bind_eq_ok.mp h
      dsimp only at h
      split at h
      · next hcolon =>
        cases h
        obtain ⟨spelt, hspells, rfl⟩ := spells_of_readString hread
        exact ⟨t, _, behind, _, rfl, hspells, hcolon, rfl, rfl⟩
      · cases h
    · cases h
  · rintro ⟨t, cs, behind, colon, rfl, hspells, hcolon, rfl, rfl⟩
    simp [readName, readString_of_spells hspells, hcolon, bind, Except.bind, pure, Except.pure]

/-- A document is read if it is a value with whitespace around it. -/
theorem parseChars_eq_ok {doc : List Char} {v : Value} :
    parseChars doc = .ok v ↔ doc.head? ≠ some '\uFEFF' ∧
      ∃ rest, readValue (2 * doc.length + 2) maxDepth (skipSpace doc) = .ok (v, rest) ∧
        skipSpace rest = [] := by
  have hmap : parseChars doc = .ok v ↔ readDocument doc = .ok v := by
    unfold parseChars
    cases readDocument doc <;> simp [Except.mapError]
  rw [hmap, readDocument]
  by_cases hmark : doc.head? = some '\uFEFF'
  · simp [hmark, halt]
  · simp only [hmark, if_false, bind_eq_ok, ne_eq, not_false_eq_true, true_and, Prod.exists]
    constructor
    · rintro ⟨v', rest, hread, h⟩
      split at h
      · next hrest =>
        cases h
        exact ⟨rest, hread, hrest⟩
      · cases h
    · rintro ⟨rest, hread, hrest⟩
      exact ⟨v, rest, hread, by simp [hrest, pure, Except.pure]⟩

theorem readValue_quote (bound room : Nat) (s : List Char) :
    readValue (bound + 1) room ('"' :: s) = readScalar ('"' :: s) := by
  simp [readValue]

theorem skipSpace_quote (s : List Char) : skipSpace ('"' :: s) = '"' :: s := by
  simp [skipSpace, isSpace]

theorem parseChars_quote_eq_ok {s : List Char} {v : Value} :
    parseChars ('"' :: s) = .ok v ↔
      ∃ cs rest, Spells s cs rest ∧ skipSpace rest = [] ∧ v = .str (String.ofList cs) := by
  have hmark : ('"' :: s).head? ≠ some '\uFEFF' := by simp
  simp only [parseChars_eq_ok, hmark, skipSpace_quote, readValue_quote, readScalar_quote_eq_ok,
    ne_eq, not_false_eq_true, true_and]
  constructor
  · rintro ⟨rest, ⟨cs, hspells, rfl⟩, hrest⟩
    exact ⟨cs, rest, hspells, hrest, rfl⟩
  · rintro ⟨cs, rest, hspells, hrest, rfl⟩
    exact ⟨rest, ⟨cs, hspells, rfl⟩, hrest⟩

/-- A literal without what is behind it stands for the same. -/
theorem Spells.exists_literal {s cs rest : List Char} (h : Spells s cs rest) :
    ∃ body, s = body ++ '"' :: rest ∧ Spells (body ++ ['"']) cs [] := by
  induction h with
  | close => exact ⟨[], rfl, .close⟩
  | plain hquote hslash hcontrol _ ih =>
    obtain ⟨body, rfl, hbody⟩ := ih
    exact ⟨_ :: body, rfl, .plain hquote hslash hcontrol hbody⟩
  | short he _ ih =>
    obtain ⟨body, rfl, hbody⟩ := ih
    exact ⟨_ :: _ :: body, rfl, .short he hbody⟩
  | @unit a b c d u s cs rest hu halone _ ih =>
    obtain ⟨body, rfl, hbody⟩ := ih
    refine ⟨'\\' :: 'u' :: a :: b :: c :: d :: body, rfl, .unit hu (fun hhigh => ?_) hbody⟩
    rintro ⟨e, f, g, h, r, v, heq, hv, hlow⟩
    refine halone hhigh ⟨e, f, g, h, r ++ rest, v, ?_, hv, hlow⟩
    calc body ++ '"' :: rest = body ++ ['"'] ++ rest := by simp
      _ = '\\' :: 'u' :: e :: f :: g :: h :: (r ++ rest) := congrArg (· ++ rest) heq
  | @pair a b c d e f g h u v s cs rest hu hhigh hv hlow _ ih =>
    obtain ⟨body, rfl, hbody⟩ := ih
    exact ⟨'\\' :: 'u' :: a :: b :: c :: d :: '\\' :: 'u' :: e :: f :: g :: h :: body, rfl,
      .pair hu hhigh hv hlow hbody⟩

/-- The closing quote stands in front of what is behind a literal. -/
theorem Spells.exists_body {s cs rest : List Char} (h : Spells s cs rest) :
    ∃ body, s = body ++ '"' :: rest := by
  obtain ⟨body, heq, -⟩ := h.exists_literal
  exact ⟨body, heq⟩

/-- A text that is a literal and nothing else ends with the quote that closes it. -/
theorem spells_of_parseChars {body : List Char} {source : String}
    (h : parseChars ('"' :: body ++ ['"']) = .ok (.str source)) :
    ∃ cs, Spells (body ++ ['"']) cs [] ∧ source = String.ofList cs := by
  obtain ⟨cs, rest, hspells, hrest, heq⟩ := parseChars_quote_eq_ok.mp h
  cases heq
  refine ⟨cs, ?_, rfl⟩
  -- what is behind the literal would end with a quote, but it is whitespace
  have hnil : rest = [] := by
    by_contra hne
    obtain ⟨inner, hinner⟩ := hspells.exists_body
    have hlast : rest.getLast hne = '"' := by
      have := congrArg List.getLast? hinner
      simpa [List.getLast?_append, List.getLast?_cons, List.getLast?_eq_some_getLast hne]
        using this.symm
    have := List.dropWhile_eq_nil_iff.mp hrest '"' (hlast ▸ List.getLast_mem hne)
    simp [isSpace] at this
  exact hnil ▸ hspells

/-- So it reads the same with anything behind it. -/
theorem readScalar_of_parseChars {body : List Char} {source : String}
    (h : parseChars ('"' :: body ++ ['"']) = .ok (.str source)) (rest : List Char) :
    readScalar ('"' :: (body ++ '"' :: rest)) = .ok (.str source, rest) := by
  obtain ⟨cs, hspells, rfl⟩ := spells_of_parseChars h
  exact readScalar_quote_eq_ok.mpr ⟨cs, by simpa using hspells.append rest, rfl⟩

end ProblemMatcher.Json
