import ProblemMatcher.Declaration
import ProblemMatcher.Proofs.Json.Literal
import ProblemMatcher.Proofs.Matcher.Grammar
import ProblemMatcher.Proofs.Text.LineTails

/-!
# Patterns declared on a line of their own

The declarations of a document are found line by line, and the literal of a pattern is cut out of
its line without reading it. It is cut out whole: what a line declares is the text that the literal
stands for wherever it is read, and so the pattern of the matcher that it belongs to. A literal that
escapes a lone surrogate stands for no text here.

1. `filter_line_inLines`: the declarations at a line are those of that line.
2. `patternBody?_patternLine`: a literal is cut out of its line at its own quotes.
3. `find_patternLine`: the declaration of a pattern on a line of its own.
-/

namespace ProblemMatcher.Declaration

open Json Text

/-! ## Declarations by their lines -/

theorem line_of_inLine? {number : Nat} {line : List Char} {d : Declaration}
    (h : inLine? number line = some d) : d.line = number := by
  simp only [inLine?] at h
  split at h
  · cases h
    rfl
  · obtain ⟨rest, -, rfl⟩ := Option.map_eq_some_iff.mp h
    rfl

theorem le_line_of_mem_inLines {number : Nat} {lines : List (List Char)} {d : Declaration}
    (h : d ∈ inLines number lines) : number ≤ d.line := by
  induction lines generalizing number with
  | nil => cases h
  | cons line rest ih =>
    simp only [inLines, List.mem_append, Option.mem_toList] at h
    obtain h | h := h
    · exact (line_of_inLine? h).ge
    · exact Nat.le_of_succ_le (ih h)

/-- The declarations at a line are those of that line. -/
theorem filter_line_inLines (number i : Nat) (lines : List (List Char)) :
    (inLines number lines).filter (·.line = number + i) =
      (lines[i]?.bind (inLine? (number + i))).toList := by
  induction lines generalizing number i with
  | nil => simp [inLines]
  | cons line rest ih =>
    rw [inLines, List.filter_append]
    cases i with
    | zero =>
      have hrest : (inLines (number + 1) rest).filter (·.line = number + 0) = [] := by
        refine List.filter_eq_nil_iff.mpr fun d hd => ?_
        have := le_line_of_mem_inLines hd
        simp
        omega
      have hline : (inLine? number line).toList.filter (·.line = number + 0) =
          (inLine? number line).toList := by
        refine List.filter_eq_self.mpr fun d hd => ?_
        simpa using line_of_inLine? (Option.mem_toList.mp hd)
      rw [hline, hrest]
      simp
    | succ i =>
      have hline : (inLine? number line).toList.filter (·.line = number + (i + 1)) = [] := by
        refine List.filter_eq_nil_iff.mpr fun d hd => ?_
        have := line_of_inLine? (Option.mem_toList.mp hd)
        simp
        omega
      have hnumber : number + (i + 1) = number + 1 + i := by omega
      rw [hline, hnumber, ih]
      simp

/-! ## A pattern on a line -/

/-- A line with a pattern on it and nothing else: a `regexp` and its literal. -/
def patternLine (indent gap body : List Char) (comma : Bool) : List Char :=
  indent ++ ("\"regexp\":".toList ++ (gap ++ '"' :: (body ++ '"' :: (if comma then [','] else []))))

theorem skip?_append (expected s : List Char) : skip? expected (expected ++ s) = some s := by
  simp [skip?]

theorem dropBlanks_append {blanks s : List Char} (h : ∀ c ∈ blanks, isBlank c = true)
    (hs : ∀ c ∈ s.head?, ¬isBlank c = true) : dropBlanks (blanks ++ s) = s := by
  unfold dropBlanks
  rw [List.dropWhile_append_of_pos h]
  cases s with
  | nil => rfl
  | cons c s => simp [hs c rfl]

theorem literalBody?_append {body : List Char} (hbody : body ≠ []) (comma : Bool) :
    literalBody? (body ++ '"' :: (if comma then [','] else [])) = some body := by
  cases comma <;> simp [literalBody?, hbody]

/-- A literal is cut out of its line at its own quotes. -/
theorem patternBody?_patternLine {indent gap body : List Char}
    (hindent : ∀ c ∈ indent, isBlank c = true) (hgap : ∀ c ∈ gap, isBlank c = true)
    (hbody : body ≠ []) (comma : Bool) :
    patternBody? (patternLine indent gap body comma) = some body := by
  have hname : dropBlanks (patternLine indent gap body comma) =
      "\"regexp\":".toList ++ (gap ++ '"' :: (body ++ '"' :: (if comma then [','] else []))) :=
    dropBlanks_append hindent (by simp; decide)
  have hquote : dropBlanks (gap ++ '"' :: (body ++ '"' :: (if comma then [','] else []))) =
      ['"'] ++ (body ++ '"' :: (if comma then [','] else [])) :=
    dropBlanks_append hgap (by simp; decide)
  simp only [patternBody?, hname, skip?_append, hquote, Option.bind_eq_bind, Option.bind_some,
    literalBody?_append hbody]

theorem inLine?_patternLine {indent gap body : List Char} {comma : Bool} {source : String}
    (hindent : ∀ c ∈ indent, isBlank c = true) (hgap : ∀ c ∈ gap, isBlank c = true)
    (hlength : (patternLine indent gap body comma).length ≤ maxLineLength) (hbody : body ≠ [])
    (hliteral : Json.parseChars ('"' :: body ++ ['"']) = .ok (.str source)) (number : Nat) :
    inLine? number (patternLine indent gap body comma) = some {
      line := number
      column := indent.length
      endColumn := (patternLine indent gap body comma).length
      source := some source } := by
  have hcolumn : (patternLine indent gap body comma).takeWhile isBlank = indent := by
    unfold patternLine
    rw [List.takeWhile_append_of_pos hindent]
    simp
    decide
  have hsource : unescape body = source := by simp only [unescape, hliteral]
  simp only [inLine?, List.take_of_length_le hlength, hcolumn, hsource,
    patternBody?_patternLine hindent hgap hbody]

/-- **What a line declares is what its literal stands for.** Of lines put together, let one be a
`regexp` with a literal behind it and perhaps a comma, with whitespace in front of both and no
longer than what is looked at. Then there is one declaration at that line. It is that of a pattern,
it goes from the end of the indentation to the end of the line, and its source is the text that the
literal stands for as a document; which is what the literal is read as wherever it stands, and the
source of the pattern that has it for its `regexp`. -/
theorem find_patternLine {lines : List (List Char)} {i : Nat} {indent gap body : List Char}
    {comma : Bool} {source : String}
    (hlines : ∀ line ∈ lines, ∀ c ∈ line, ¬isLineBreak c = true)
    (hline : lines[i]? = some (patternLine indent gap body comma))
    (hindent : ∀ c ∈ indent, isBlank c = true) (hgap : ∀ c ∈ gap, isBlank c = true)
    (hlength : (patternLine indent gap body comma).length ≤ 1000) (hbody : body ≠ [])
    (hliteral : Json.parseChars ('"' :: body ++ ['"']) = .ok (.str source)) :
    (∃ d, (find (String.ofList (['\n'].intercalate lines))).filter (·.line = i) = [d] ∧
        d.line = i ∧ d.isChain = false ∧ d.column = indent.length ∧
        d.endColumn = (patternLine indent gap body comma).length ∧ d.source = some source) ∧
      (∀ rest, Json.readScalar ('"' :: (body ++ '"' :: rest)) = .ok (.str source, rest)) ∧
      ∀ part members f, Members.get? members "regexp" = some (.str source) →
        Matcher.fragmentOfMembers part members = .ok f → f.source = source := by
  refine ⟨⟨⟨i, indent.length, (patternLine indent gap body comma).length, some source⟩, ?found,
    rfl, rfl, rfl, rfl, rfl⟩, Json.readScalar_of_parseChars hliteral, ?same⟩
  case found =>
    have hne : patternLine indent gap body comma ≠ [] := by simp [patternLine]
    have hsplit := splitLines_intercalate_getElem? rfl hlines hline hne
    have hd := inLine?_patternLine hindent hgap hlength hbody hliteral i
    have hfilter := filter_line_inLines 0 i (splitLines isLineBreak (['\n'].intercalate lines))
    simpa [find, hsplit, hd] using hfilter
  case same =>
    intro part members f hsource hf
    obtain ⟨-, hdeclares⟩ := Matcher.fragmentOfMembers_eq_ok.mp hf
    cases hdeclares with
    | object hf _ _ =>
      rw [hf] at hsource
      cases hsource
      rfl

/-- A body with an escaped quote, a comma and, in front of its closing quote, a backslash. -/
def awkwardBody : List Char :=
  ['\\', 'u', '0', '0', 'e', '9', '\\', '"', ',', '\\', '\\']

def awkwardLines : List (List Char) :=
  [['\x7b'], patternLine ['\t'] [' '] awkwardBody true, ['\x7d']]

theorem parseChars_awkwardBody :
    Json.parseChars ('"' :: awkwardBody ++ ['"']) = .ok (.str "é\",\\") := by
  have hspells : Spells (awkwardBody ++ ['"']) ['é', '"', ',', '\\'] [] := by
    refine @Spells.unit '0' '0' 'e' '9' 233 _ _ _ rfl (fun h => absurd h (by decide)) ?_
    refine .short rfl (.plain ?_ ?_ ?_ (.short rfl .close)) <;> decide
  exact Json.parseChars_quote_eq_ok.mpr ⟨_, [], hspells, rfl, rfl⟩

theorem find_patternLine_awkward :
    ∃ d, (find (String.ofList (['\n'].intercalate awkwardLines))).filter (·.line = 1) = [d] ∧
      d.line = 1 ∧ d.isChain = false ∧ d.column = 1 ∧ d.endColumn = 25 ∧
      d.source = some "é\",\\" := by
  have hlines : ∀ line ∈ awkwardLines, ∀ c ∈ line, ¬isLineBreak c = true := by
    simp [awkwardLines, patternLine, awkwardBody, isLineBreak]
  have hlength : (patternLine ['\t'] [' '] awkwardBody true).length = 25 := by
    simp [patternLine, awkwardBody]
  have hbody : awkwardBody ≠ [] := by simp [awkwardBody]
  obtain ⟨⟨d, hd, hrow, hchain, hcolumn, hend, hsource⟩, -⟩ :=
    @find_patternLine awkwardLines 1 ['\t'] [' '] awkwardBody true _ hlines rfl
      (by simp [isBlank, isAsciiBlank]) (by simp [isBlank, isAsciiBlank])
      (hlength.le.trans (by simp)) hbody parseChars_awkwardBody
  exact ⟨d, hd, hrow, hchain, hcolumn, hend.trans hlength, hsource⟩

end ProblemMatcher.Declaration
