import ProblemMatcher.Diagnostic.Location
import ProblemMatcher.Proofs.Attempt

/-!
# What a captured location says

1. The parts of a text are what stands between its commas (`splitCommas_eq`): they hold no comma,
   and the text is the parts with commas between them.
2. A location is read as a range exactly when it has one, two or four parts and all of them are
   integers (`parse?_eq_some`); with any other number of parts it says nothing
   (`parse?_eq_none`), and in the remaining case the reading fails.
-/

namespace ProblemMatcher

open ProblemMatcher.Text

/-- Each element has a partner if there is a list of partners. -/
theorem exists_forall₂_iff {α β : Type} {R : α → β → Prop} {l : List α} :
    (∃ l', List.Forall₂ R l l') ↔ ∀ a ∈ l, ∃ b, R a b := by
  induction l with
  | nil => exact ⟨fun _ a ha => absurd ha List.not_mem_nil, fun _ => ⟨[], .nil⟩⟩
  | cons a rest ih =>
    rw [List.forall_mem_cons, ← ih]
    constructor
    · rintro ⟨_, h⟩
      cases h with
      | cons hb htail => exact ⟨⟨_, hb⟩, ⟨_, htail⟩⟩
    · rintro ⟨⟨b, hb⟩, ⟨tail, htail⟩⟩
      exact ⟨b :: tail, .cons hb htail⟩

namespace Range

/-- The parts stand between the commas of the text. -/
structure AreParts (parts : List (List Char)) (text : List Char) : Prop where
  joined : [','].intercalate parts = text
  some_part : parts ≠ []
  unbroken : ∀ part ∈ parts, ',' ∉ part

theorem unbroken_splitCommas (text : List Char) : ∀ part ∈ splitCommas text, ',' ∉ part := by
  unfold splitCommas List.splitOn
  induction text with
  | nil =>
    intro part hpart
    rw [List.splitOnP_nil, List.mem_singleton] at hpart
    subst hpart
    exact List.not_mem_nil
  | cons c rest ih =>
    rw [List.splitOnP_cons_eq_if_modifyHead]
    split_ifs with hc
    · intro part hpart
      rcases List.mem_cons.mp hpart with rfl | hpart
      · exact List.not_mem_nil
      · exact ih part hpart
    · cases h : List.splitOnP (· == ',') rest with
      | nil => exact absurd h (List.splitOnP_ne_nil _ rest)
      | cons first others =>
        rw [h] at ih
        intro part hpart
        rcases List.mem_cons.mp hpart with rfl | hpart
        · intro hcomma
          rcases List.mem_cons.mp hcomma with rfl | hcomma
          · exact hc rfl
          · exact ih first List.mem_cons_self hcomma
        · exact ih part (List.mem_cons_of_mem _ hpart)

theorem splitCommas_eq {parts : List (List Char)} {text : List Char} :
    splitCommas text = parts ↔ AreParts parts text := by
  constructor
  · rintro rfl
    exact ⟨List.intercalate_splitOn ',', List.splitOnP_ne_nil _ text, unbroken_splitCommas text⟩
  · intro h
    rw [← h.joined]
    exact List.splitOn_intercalate ',' h.unbroken h.some_part

/-- As many parts as a location has. -/
def IsCount (count : Nat) : Prop := count = 1 ∨ count = 2 ∨ count = 4

/-- The text has as many parts as a location. -/
def IsCounted (text : List Char) : Prop :=
  ∃ parts, AreParts parts text ∧ IsCount parts.length

/-- The range that numbers stand for: a line, a line and a column, or both ends. -/
inductive Spans : List Int → Range → Prop
  | line (line : Int) : Spans [line] ⟨line, 0, line, 0⟩
  | place (line column : Int) : Spans [line, column] ⟨line, column, line, column⟩
  | ends (line column endLine endColumn : Int) :
      Spans [line, column, endLine, endColumn] ⟨line, column, endLine, endColumn⟩

/-- The parts of the text are read as numbers that stand for the range. -/
def IsWritten (r : Range) (text : List Char) : Prop :=
  ∃ parts values, AreParts parts text ∧
    List.Forall₂ (fun part value => parseInt part = .ok value) parts values ∧ Spans values r

variable {text : List Char} {values : List Int} {r : Range}

theorem ofValues?_eq_some : ofValues? values = some r ↔ Spans values r := by
  constructor
  · intro h
    unfold ofValues? at h
    split at h
    · cases h
      exact .line _
    · cases h
      exact .place _ _
    · cases h
      exact .ends _ _ _ _
    · cases h
  · rintro (⟨line⟩ | ⟨line, column⟩ | ⟨line, column, endLine, endColumn⟩) <;> rfl

theorem exists_spans (h : IsCount values.length) : ∃ r, Spans values r := by
  rcases h with h | h | h
  · obtain ⟨line, rfl⟩ := List.length_eq_one_iff.mp h
    exact ⟨_, .line line⟩
  · obtain ⟨line, column, rfl⟩ := List.length_eq_two.mp h
    exact ⟨_, .place line column⟩
  · match values, h with
    | [line, column, endLine, endColumn], _ => exact ⟨_, .ends line column endLine endColumn⟩

theorem Spans.isCount (h : Spans values r) : IsCount values.length := by
  cases h with
  | line => exact Or.inl rfl
  | place => exact Or.inr (Or.inl rfl)
  | ends => exact Or.inr (Or.inr rfl)

theorem isCounted_iff : IsCounted text ↔ IsCount (splitCommas text).length := by
  constructor
  · rintro ⟨parts, hparts, h⟩
    rw [splitCommas_eq.mpr hparts]
    exact h
  · exact fun h => ⟨splitCommas text, splitCommas_eq.mp rfl, h⟩

theorem parse?_of_isCounted (h : IsCounted text) :
    parse? text = ((splitCommas text).mapM parseInt).map ofValues? := by
  unfold parse?
  rw [if_pos (by simpa [IsCount, or_assoc] using isCounted_iff.mp h)]

theorem parse?_of_not_isCounted (h : ¬ IsCounted text) : parse? text = .ok none := by
  unfold parse?
  rw [if_neg (by simpa [IsCount, or_assoc, isCounted_iff] using h)]

theorem IsWritten.isCounted (h : r.IsWritten text) : IsCounted text := by
  obtain ⟨parts, values, hparts, hvalues, hspans⟩ := h
  refine ⟨parts, hparts, ?_⟩
  rw [hvalues.length_eq]
  exact hspans.isCount

/-- **What a location is read as**: a range, if it has one, two or four parts and all of them are
integers. -/
theorem parse?_eq_some : parse? text = .ok (some r) ↔ r.IsWritten text := by
  by_cases hcount : IsCounted text
  · rw [parse?_of_isCounted hcount, map_eq_ok]
    constructor
    · rintro ⟨values, hvalues, hspans⟩
      exact ⟨splitCommas text, values, splitCommas_eq.mp rfl, mapM_eq_ok.mp hvalues,
        ofValues?_eq_some.mp hspans⟩
    · rintro ⟨parts, values, hparts, hvalues, hspans⟩
      rw [splitCommas_eq.mpr hparts]
      exact ⟨values, mapM_eq_ok.mpr hvalues, ofValues?_eq_some.mpr hspans⟩
  · rw [parse?_of_not_isCounted hcount]
    exact ⟨nofun, fun h => absurd h.isCounted hcount⟩

/-- A location says nothing if the number of its parts is not that of a location, and then its parts
are not looked at. -/
theorem parse?_eq_none : parse? text = .ok none ↔ ¬ IsCounted text := by
  refine ⟨?_, parse?_of_not_isCounted⟩
  intro h hcount
  rw [parse?_of_isCounted hcount] at h
  obtain ⟨values, hvalues, h⟩ := map_eq_ok.mp h
  have hlength := (mapM_eq_ok.mp hvalues).length_eq
  rw [isCounted_iff, hlength] at hcount
  obtain ⟨r, hr⟩ := exists_spans hcount
  rw [ofValues?_eq_some.mpr hr] at h
  cases h

/-- A text is the location of some range if it has the number of parts of a location and each part
is an integer. -/
theorem exists_isWritten_iff : (∃ r : Range, r.IsWritten text) ↔ ∃ parts, AreParts parts text ∧
    IsCount parts.length ∧ ∀ part ∈ parts, ∃ n, parseInt part = .ok n := by
  constructor
  · rintro ⟨r, parts, values, hparts, hvalues, hspans⟩
    refine ⟨parts, hparts, ?_, exists_forall₂_iff.mp ⟨values, hvalues⟩⟩
    rw [hvalues.length_eq]
    exact hspans.isCount
  · rintro ⟨parts, hparts, hcount, hintegers⟩
    obtain ⟨values, hvalues⟩ := exists_forall₂_iff.mpr hintegers
    rw [hvalues.length_eq] at hcount
    obtain ⟨r, hr⟩ := exists_spans hcount
    exact ⟨r, parts, values, hparts, hvalues, hr⟩

end Range

end ProblemMatcher
