import ProblemMatcher.Matcher.Anchors
import ProblemMatcher.Proofs.Regex.Anchors

/-!
# Anchors as tokens

Whether the dollar sign at the end of a pattern is an anchor is told from the end, by the number of
backslashes in front of it. The pattern itself is read from its beginning, where a backslash and the
character after it are one token. Both ways tell the same, so what is taken off a pattern is always
a whole token of it.

1. `loneBackslash_mem_iff`: the backslashes that end a text leave one over if their number is odd.
2. `ofChars_append_of_mem`: a backslash that is left over takes the character after it.
3. `dropFinalAnchor_reverse`: what the backward test takes off, as the tokens tell it.
4. `stripAnchors_reads_forward`: the pattern without its anchors.
-/

namespace ProblemMatcher

namespace Regex.Token

theorem takeWhile_append_two {p : Char → Bool} (s : List Char) {c d : Char} (hc : p c = true) :
    ((s ++ [d, c]).takeWhile p).length % 2 = (s.takeWhile p).length % 2 := by
  rw [List.takeWhile_append]
  split_ifs with hall
  · rw [List.length_append, ← hall]
    cases hd : p d with
    | true => simp [hd, hc]
    | false => simp [hd]
  · rfl

theorem takeWhile_append_one {p : Char → Bool} (s : List Char) {c : Char} (hc : p c = false) :
    (s ++ [c]).takeWhile p = s.takeWhile p := by
  rw [List.takeWhile_append]
  split_ifs with hall
  · rw [List.takeWhile_cons_of_neg (by simp [hc]), List.append_nil]
    exact (List.takeWhile_prefix p).eq_of_length hall |>.symm
  · rfl

/-- Read from the left, a text ends in a lone backslash if the number of backslashes at its end is
odd. -/
theorem loneBackslash_mem_iff (s : List Char) :
    .loneBackslash ∈ ofChars s ↔ (s.reverse.takeWhile (· == '\\')).length % 2 = 1 := by
  fun_induction ofChars s with
  | case1 => simp
  | case2 => simp
  | case3 c hc => simp [hc]
  | case4 d rest ih =>
    rw [List.reverse_cons, List.reverse_cons, List.append_assoc, List.singleton_append,
      takeWhile_append_two rest.reverse rfl, ← ih]
    simp
  | case5 c d rest hc ih =>
    rw [List.reverse_cons, takeWhile_append_one _ (by simpa using hc), ← ih]
    simp

/-- A lone backslash at the end of a text takes the character that comes after the text. -/
theorem ofChars_append_of_mem {first : List Char} (h : .loneBackslash ∈ ofChars first) (c : Char)
    (rest : List Char) :
    ofChars (first ++ c :: rest) = (ofChars first).dropLast ++ .escape c :: ofChars rest := by
  fun_induction ofChars first with
  | case1 => cases h
  | case2 => rfl
  | case3 d hd => simp at h
  | case4 d tail ih =>
    have htail : .loneBackslash ∈ ofChars tail := by simpa using h
    show .escape d :: ofChars (tail ++ c :: rest) = _
    rw [ih htail, List.dropLast_cons_of_ne_nil (List.ne_nil_of_mem htail), List.cons_append]
  | case5 d e tail hd ih =>
    have htail : .loneBackslash ∈ ofChars (e :: tail) := by simpa using h
    rw [List.cons_append, ofChars_cons hd, ih htail,
      List.dropLast_cons_of_ne_nil (List.ne_nil_of_mem htail), List.cons_append]

/-- A character at the end is a token of its own unless a backslash is left over before it. -/
theorem getLast?_ofChars_concat (s : List Char) {c : Char} (hc : c ≠ '\\') :
    (ofChars (s ++ [c])).getLast? = some (.char c) ↔ .loneBackslash ∉ ofChars s := by
  constructor
  · intro hlast hmem
    rw [ofChars_append_of_mem hmem, ofChars, List.getLast?_concat] at hlast
    cases hlast
  · intro hlone
    rw [ofChars_append hlone, ofChars_cons hc, ofChars, List.getLast?_concat]

end Regex.Token

namespace Matcher

open Regex

/-- Read from the left, the text ends in a dollar sign that is a token of its own. -/
def endsInDollar (t : List Char) : Bool :=
  (Token.ofChars t).getLast? = some (.char '$')

theorem endsInDollar_concat (s : List Char) :
    endsInDollar (s ++ ['$']) = true ↔ .loneBackslash ∉ Token.ofChars s := by
  rw [endsInDollar, decide_eq_true_iff, Token.getLast?_ofChars_concat s (by decide)]

theorem exists_concat_of_endsInDollar {t : List Char} (h : endsInDollar t = true) :
    ∃ s, t = s ++ ['$'] ∧ .loneBackslash ∉ Token.ofChars s := by
  obtain ⟨front, hfront⟩ := List.getLast?_eq_some_iff.mp (of_decide_eq_true h)
  have ht : t = front.flatMap Token.text ++ ['$'] := by
    rw [← Token.flatMap_text_ofChars t, hfront, List.flatMap_append]
    rfl
  refine ⟨front.flatMap Token.text, ht, ?_⟩
  rwa [← endsInDollar_concat, ← ht]

theorem dropLeadingAnchor_eq (source : List Char) :
    dropLeadingAnchor source = if source.head? = some '^' then source.tail else source := by
  cases source with
  | nil => rfl
  | cons c rest =>
    by_cases hc : c = '^'
    · subst hc
      rfl
    · rw [List.head?_cons, if_neg fun h => hc (Option.some.inj h), dropLeadingAnchor]
      rintro rest' heq
      exact hc (List.cons.inj heq).1

/-- The backward test takes off the last character if it is a dollar sign and a token. -/
theorem dropFinalAnchor_reverse (t : List Char) :
    (dropFinalAnchor t.reverse).reverse = if endsInDollar t then t.dropLast else t := by
  unfold dropFinalAnchor
  split
  · rename_i before hbefore
    have ht : t = before.reverse ++ ['$'] := by
      rw [← List.reverse_cons, ← hbefore, List.reverse_reverse]
    have hdollar := endsInDollar_concat before.reverse
    rw [Token.loneBackslash_mem_iff, List.reverse_reverse, ← ht] at hdollar
    by_cases hodd : (before.takeWhile (· == '\\')).length % 2 = 1
    · rw [if_pos (by simpa using hodd), if_neg (hdollar.not.mpr (not_not.mpr hodd)), ht,
        List.reverse_cons]
    · rw [if_neg (by simpa using hodd), if_pos (hdollar.mpr hodd), ht, List.dropLast_concat]
  · rename_i hother
    rw [List.reverse_reverse, if_neg]
    intro hdollar
    obtain ⟨s, rfl, -⟩ := exists_concat_of_endsInDollar hdollar
    exact hother s.reverse List.reverse_concat

theorem ofChars_of_endsInDollar {t : List Char} (h : endsInDollar t = true) :
    Token.ofChars t = Token.ofChars t.dropLast ++ [.char '$'] := by
  obtain ⟨s, rfl, hlone⟩ := exists_concat_of_endsInDollar h
  rw [List.dropLast_concat, Token.ofChars_append hlone]
  rfl

/-- **The anchors of a pattern, read forward.** Behind the caret that a pattern may begin with, a
dollar sign at the end is taken off if it is a token of its own, and nothing else is. So all other
tokens stay as they are, escaped dollar signs among them, and what is left is the pattern once its
anchors are put back. -/
theorem stripAnchors_reads_forward (source : String) :
    let written := source.toList
    let t := if written.head? = some '^' then written.tail else written
    let stripped := (stripAnchors source).toList
    stripped = (if endsInDollar t then t.dropLast else t) ∧
      Token.ofChars t = Token.ofChars stripped ++ (if endsInDollar t then [.char '$'] else []) ∧
      written = (if written.head? = some '^' then ['^'] else []) ++ stripped ++
        (if endsInDollar t then ['$'] else []) := by
  intro written t stripped
  have hstripped : stripped = if endsInDollar t then t.dropLast else t := by
    show (String.ofList (stripChars source.toList)).toList = _
    rw [String.toList_ofList, stripChars, dropFinalAnchor_reverse, dropLeadingAnchor_eq]
  have hbehind : t = stripped ++ if endsInDollar t then ['$'] else [] := by
    rw [hstripped]
    split_ifs with hdollar
    · obtain ⟨s, hs, -⟩ := exists_concat_of_endsInDollar hdollar
      rw [hs, List.dropLast_concat]
    · exact (List.append_nil t).symm
  have hwritten : written = (if written.head? = some '^' then ['^'] else []) ++ t := by
    show written = _ ++ if written.head? = some '^' then written.tail else written
    split_ifs with hcaret
    · exact List.eq_cons_of_mem_head? hcaret
    · rfl
  refine ⟨hstripped, ?_, ?_⟩
  · rw [hstripped]
    split_ifs with hdollar
    · exact ofChars_of_endsInDollar hdollar
    · exact (List.append_nil _).symm
  · rw [List.append_assoc, ← hbehind]
    exact hwritten

/-- After two backslashes the dollar sign is an anchor, after three it is not. -/
example : stripAnchors "^a\\\\$" = "a\\\\" ∧ stripAnchors "^a\\\\\\$" = "a\\\\\\$" := by
  decide

end Matcher

end ProblemMatcher
