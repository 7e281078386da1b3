import ProblemMatcher.Diagnostic.Extract
import ProblemMatcher.Proofs.Diagnostic.Ranges

/-!
# Which matches become diagnostics

1. A field is supplied when its index is that of a group, the group took part in the match and its
   text is not empty (`value?_eq_some`, `value?_eq_none`).
2. The place of a diagnostic comes from the location if that has the number of parts of one, and
   from line and column otherwise (`range?_eq_some`).
3. A match becomes a diagnostic exactly when file, message and place can be made out, and the
   diagnostic says what was captured (`diagnostic?_describes`). A location that has the right number
   of parts and is no range spoils the match, whatever line and column say
   (`diagnostic?_eq_none_of_spoiled`).
-/

namespace ProblemMatcher.Capture

open ProblemMatcher.Text

variable (c : Capture) (offsets : FieldTable)

/-! ## What a field is supplied with -/

/-- The index of the field is that of a group, which took part in the match with the text. -/
def Captures (f : Field) (text : String) : Prop :=
  ∃ index : ℕ, offsets.get? f = some (index : ℤ) ∧ index ≤ c.groupCount ∧
    c.found.group? c.text index = some text

/-- The text is captured for the field and not empty. -/
def Supplies (f : Field) (text : String) : Prop := c.Captures offsets f text ∧ text ≠ ""

/-- No text, or only the empty one, is captured for the field. -/
def Misses (f : Field) : Prop := ∀ text, ¬ c.Supplies offsets f text

/-- The text is supplied for the field, or for another one if the field misses. -/
def SuppliesOr (f fallback : Field) (text : String) : Prop :=
  c.Supplies offsets f text ∨ c.Misses offsets f ∧ c.Supplies offsets fallback text

variable {c offsets} {f fallback : Field} {text : String}

theorem field?_eq_some : c.field? offsets f = some text ↔ c.Captures offsets f text := by
  unfold field? Captures
  cases h : offsets.get? f with
  | none => exact ⟨nofun, fun ⟨index, hindex, _⟩ => nomatch hindex⟩
  | some index =>
    show (if _ then _ else _) = _ ↔ _
    by_cases hrange : (index < 0 || (c.groupCount : ℤ) < index) = true
    · rw [if_pos hrange]
      refine ⟨nofun, ?_⟩
      rintro ⟨i, hi, hle, -⟩
      cases hi
      simp only [Bool.or_eq_true, decide_eq_true_eq] at hrange
      omega
    · rw [if_neg hrange]
      simp only [Bool.or_eq_true, decide_eq_true_eq, not_or, not_lt] at hrange
      obtain ⟨i, rfl⟩ := Int.eq_ofNat_of_zero_le hrange.1
      constructor
      · intro htext
        exact ⟨i, rfl, by omega, htext⟩
      · rintro ⟨j, hj, -, htext⟩
        cases hj
        exact htext

theorem field?_eq_none : c.field? offsets f = none ↔ ∀ text, ¬ c.Captures offsets f text := by
  simp only [Option.eq_none_iff_forall_ne_some, ← field?_eq_some, ne_eq]

theorem value?_eq_some : c.value? offsets f = some text ↔ c.Supplies offsets f text := by
  unfold value? Supplies
  rw [Option.filter_eq_some_iff, field?_eq_some, decide_eq_true_eq]

theorem value?_eq_none : c.value? offsets f = none ↔ c.Misses offsets f := by
  simp only [Option.eq_none_iff_forall_ne_some, Misses, ← value?_eq_some, ne_eq]

theorem Supplies.unique {other : String} (h : c.Supplies offsets f text)
    (h' : c.Supplies offsets f other) : other = text := by
  rw [← value?_eq_some] at h h'
  exact Option.some.inj (h'.symm.trans h)

theorem getD_value? (h : c.Supplies offsets fallback text) {other : String} :
    (c.value? offsets f).getD text = other ↔ c.SuppliesOr offsets f fallback other := by
  unfold SuppliesOr
  cases hvalue : c.value? offsets f with
  | none =>
    have hmisses := value?_eq_none.mp hvalue
    constructor
    · rintro rfl
      exact Or.inr ⟨hmisses, h⟩
    · rintro (h' | ⟨-, h'⟩)
      · exact absurd h' (hmisses other)
      · exact (h.unique h').symm
  | some value =>
    have hsupplies := value?_eq_some.mp hvalue
    constructor
    · rintro rfl
      exact Or.inl hsupplies
    · rintro (h' | ⟨h', -⟩)
      · exact (hsupplies.unique h').symm
      · exact absurd hsupplies (h' value)

/-! ## Where the place comes from -/

variable (c offsets)

/-- The range is written in the location. -/
def Locates (r : Range) : Prop :=
  ∃ location, c.Supplies offsets .location location ∧ r.IsWritten location.toList

/-- The location is missing or has a number of parts that no location has. -/
def LacksLocation : Prop :=
  ∀ location, c.Supplies offsets .location location → ¬ Range.IsCounted location.toList

/-- The range is that of line and column, with which the end is the same where it is missing. -/
structure Places (r : Range) : Prop where
  line : ∃ text, c.Supplies offsets .line text ∧ parseInt text.toList = .ok r.line
  column : ∃ text, c.Supplies offsets .column text ∧ parseInt text.toList = .ok r.column
  endLine : ∃ text, c.SuppliesOr offsets .endLine .line text ∧
    parseInt text.toList = .ok r.endLine
  endColumn : ∃ text, c.SuppliesOr offsets .endColumn .column text ∧
    parseInt text.toList = .ok r.endColumn

variable {c offsets} {r : Range}

theorem discreteRange?_eq_some :
    c.discreteRange? offsets = .ok (some r) ↔ c.Places offsets r := by
  unfold discreteRange?
  split
  · rename_i line column hline hcolumn
    rw [value?_eq_some] at hline hcolumn
    constructor
    · intro h
      obtain ⟨l, hl, h⟩ := bind_eq_ok.mp h
      obtain ⟨k, hk, h⟩ := bind_eq_ok.mp h
      obtain ⟨endL, hendL, h⟩ := bind_eq_ok.mp h
      obtain ⟨endK, hendK, h⟩ := bind_eq_ok.mp h
      cases h
      exact ⟨⟨line, hline, hl⟩, ⟨column, hcolumn, hk⟩, ⟨_, (getD_value? hline).mp rfl, hendL⟩,
        ⟨_, (getD_value? hcolumn).mp rfl, hendK⟩⟩
    · rintro ⟨⟨l, hl, hline'⟩, ⟨k, hk, hcolumn'⟩, ⟨endL, hendL, hendLine⟩, ⟨endK, hendK, hendColumn⟩⟩
      obtain rfl := hline.unique hl
      obtain rfl := hcolumn.unique hk
      obtain rfl := (getD_value? hline).mpr hendL
      obtain rfl := (getD_value? hcolumn).mpr hendK
      exact bind_eq_ok.mpr ⟨_, hline', bind_eq_ok.mpr ⟨_, hcolumn', bind_eq_ok.mpr
        ⟨_, hendLine, bind_eq_ok.mpr ⟨_, hendColumn, rfl⟩⟩⟩⟩
  · rename_i hnone
    refine ⟨nofun, ?_⟩
    rintro ⟨⟨l, hl, -⟩, ⟨k, hk, -⟩, -, -⟩
    exact absurd (value?_eq_some.mpr hk) (hnone l k (value?_eq_some.mpr hl))

/-- **Where the place comes from**: the location, and line and column only if there is none. -/
theorem range?_eq_some : c.range? offsets = .ok (some r) ↔
    c.Locates offsets r ∨ c.LacksLocation offsets ∧ c.Places offsets r := by
  unfold range?
  cases hlocation : c.value? offsets .location with
  | none =>
    have hmisses := value?_eq_none.mp hlocation
    show c.discreteRange? offsets = _ ↔ _
    rw [discreteRange?_eq_some]
    constructor
    · exact fun h => Or.inr ⟨fun location hsupplies => absurd hsupplies (hmisses location), h⟩
    · rintro (⟨location, hsupplies, -⟩ | ⟨-, h⟩)
      · exact absurd hsupplies (hmisses location)
      · exact h
  -- a location with the number of parts of one decides, any other is passed over
  | some location =>
    have hsupplies := value?_eq_some.mp hlocation
    show Range.parse? location.toList >>= _ = _ ↔ _
    rw [bind_eq_ok]
    constructor
    · rintro ⟨range, hrange, h⟩
      cases range with
      | none =>
        refine Or.inr ⟨?_, discreteRange?_eq_some.mp h⟩
        intro other hother
        obtain rfl := hsupplies.unique hother
        exact Range.parse?_eq_none.mp hrange
      | some range =>
        cases h
        exact Or.inl ⟨location, hsupplies, Range.parse?_eq_some.mp hrange⟩
    · rintro (⟨other, hother, hwritten⟩ | ⟨hlacks, h⟩)
      · obtain rfl := hsupplies.unique hother
        exact ⟨some r, Range.parse?_eq_some.mpr hwritten, rfl⟩
      · exact ⟨none, Range.parse?_eq_none.mpr (hlacks location hsupplies),
          discreteRange?_eq_some.mpr h⟩

/-! ## The diagnostic of a match -/

variable (c offsets)

/-- The diagnostic says what the match captured. -/
structure Describes (d : Diagnostic) : Prop where
  file : c.Supplies offsets .file d.file
  message : c.Supplies offsets .message d.message
  range : c.Locates offsets d.range ∨ c.LacksLocation offsets ∧ c.Places offsets d.range
  code : (∃ text, c.Supplies offsets .code text ∧ d.code = .captured text) ∨
    c.Misses offsets .code ∧ d.code = .placeholder
  severity : (∃ text, c.Captures offsets .severity text ∧ d.severity = Severity.parse (some text)) ∨
    (∀ text, ¬ c.Captures offsets .severity text) ∧ d.severity = .error

/-- The field is supplied with an integer, or the one it falls back to is. -/
def SuppliesNumber (f fallback : Field) : Prop :=
  ∃ text n, c.SuppliesOr offsets f fallback text ∧ parseInt text.toList = .ok n

/-- The location has the number of parts of one, and each part is an integer. -/
def HasLocation : Prop :=
  ∃ location, c.Supplies offsets .location location ∧ ∃ parts,
    Range.AreParts parts location.toList ∧ Range.IsCount parts.length ∧
      ∀ part ∈ parts, ∃ n, parseInt part = .ok n

/-- Line and column are supplied, and whatever stands for the four numbers is an integer. -/
def HasPlace : Prop :=
  c.SuppliesNumber offsets .line .line ∧ c.SuppliesNumber offsets .column .column ∧
    c.SuppliesNumber offsets .endLine .line ∧ c.SuppliesNumber offsets .endColumn .column

/-- Everything a diagnostic must have is there. -/
structure IsComplete : Prop where
  file : ∃ text, c.Supplies offsets .file text
  message : ∃ text, c.Supplies offsets .message text
  place : c.HasLocation offsets ∨ c.LacksLocation offsets ∧ c.HasPlace offsets

variable {c offsets}

theorem suppliesOr_self : c.SuppliesOr offsets f f text ↔ c.Supplies offsets f text :=
  ⟨fun h => h.elim id And.right, Or.inl⟩

theorem hasLocation_iff : c.HasLocation offsets ↔ ∃ r, c.Locates offsets r := by
  constructor
  · rintro ⟨location, hsupplies, h⟩
    obtain ⟨r, hr⟩ := Range.exists_isWritten_iff.mpr h
    exact ⟨r, location, hsupplies, hr⟩
  · rintro ⟨r, location, hsupplies, hr⟩
    exact ⟨location, hsupplies, Range.exists_isWritten_iff.mp ⟨r, hr⟩⟩

theorem hasPlace_iff : c.HasPlace offsets ↔ ∃ r, c.Places offsets r := by
  constructor
  · rintro ⟨⟨line, l, hline, hl⟩, ⟨column, k, hcolumn, hk⟩, ⟨endLine, endL, hendLine, hendL⟩,
      ⟨endColumn, endK, hendColumn, hendK⟩⟩
    exact ⟨⟨l, k, endL, endK⟩, ⟨line, suppliesOr_self.mp hline, hl⟩,
      ⟨column, suppliesOr_self.mp hcolumn, hk⟩, ⟨endLine, hendLine, hendL⟩,
      ⟨endColumn, hendColumn, hendK⟩⟩
  · rintro ⟨r, ⟨line, hline, hl⟩, ⟨column, hcolumn, hk⟩, ⟨endLine, hendLine, hendL⟩,
      ⟨endColumn, hendColumn, hendK⟩⟩
    exact ⟨⟨line, r.line, suppliesOr_self.mpr hline, hl⟩,
      ⟨column, r.column, suppliesOr_self.mpr hcolumn, hk⟩, ⟨endLine, r.endLine, hendLine, hendL⟩,
      ⟨endColumn, r.endColumn, hendColumn, hendK⟩⟩

theorem code_eq {code : Code} :
    (match c.value? offsets .code with
      | some text => Code.captured text
      | none => .placeholder) = code ↔
      (∃ text, c.Supplies offsets .code text ∧ code = .captured text) ∨
        c.Misses offsets .code ∧ code = .placeholder := by
  cases hvalue : c.value? offsets .code with
  | none =>
    have hmisses := value?_eq_none.mp hvalue
    constructor
    · rintro rfl
      exact Or.inr ⟨hmisses, rfl⟩
    · rintro (⟨text, h, -⟩ | ⟨-, rfl⟩)
      · exact absurd h (hmisses text)
      · rfl
  | some text =>
    have hsupplies := value?_eq_some.mp hvalue
    constructor
    · rintro rfl
      exact Or.inl ⟨text, hsupplies, rfl⟩
    · rintro (⟨other, h, rfl⟩ | ⟨h, -⟩)
      · rw [hsupplies.unique h]
      · exact absurd hsupplies (h text)

theorem severity_eq {severity : Severity} :
    Severity.parse (c.field? offsets .severity) = severity ↔
      (∃ text, c.Captures offsets .severity text ∧ severity = Severity.parse (some text)) ∨
        (∀ text, ¬ c.Captures offsets .severity text) ∧ severity = .error := by
  cases hfield : c.field? offsets .severity with
  | none =>
    have hnone := field?_eq_none.mp hfield
    constructor
    · rintro rfl
      exact Or.inr ⟨hnone, rfl⟩
    · rintro (⟨text, h, -⟩ | ⟨-, rfl⟩)
      · exact absurd h (hnone text)
      · rfl
  | some text =>
    constructor
    · rintro rfl
      exact Or.inl ⟨text, field?_eq_some.mp hfield, rfl⟩
    · rintro (⟨other, h, rfl⟩ | ⟨h, -⟩)
      · rw [← hfield, field?_eq_some.mpr h]
      · exact absurd (field?_eq_some.mp hfield) (h text)

theorem diagnostic?_eq_some {d : Diagnostic} :
    c.diagnostic? offsets = some d ↔ c.Describes offsets d := by
  unfold diagnostic?
  constructor
  · intro h
    split at h
    · rename_i file message hfile hmessage
      split at h
      · rename_i range hrange
        cases h
        exact ⟨value?_eq_some.mp hfile, value?_eq_some.mp hmessage, range?_eq_some.mp hrange,
          code_eq.mp rfl, severity_eq.mp rfl⟩
      · cases h
    · cases h
  · rintro ⟨hfile, hmessage, hrange, hcode, hseverity⟩
    simp only [value?_eq_some.mpr hfile, value?_eq_some.mpr hmessage, range?_eq_some.mpr hrange,
      severity_eq.mpr hseverity]
    exact congrArg (fun code => some { d with code }) (code_eq.mpr hcode)

theorem exists_describes_iff : (∃ d, c.Describes offsets d) ↔ c.IsComplete offsets := by
  constructor
  · rintro ⟨d, hfile, hmessage, hrange, -, -⟩
    refine ⟨⟨d.file, hfile⟩, ⟨d.message, hmessage⟩, ?_⟩
    rcases hrange with hlocates | ⟨hlacks, hplaces⟩
    · exact Or.inl (hasLocation_iff.mpr ⟨d.range, hlocates⟩)
    · exact Or.inr ⟨hlacks, hasPlace_iff.mpr ⟨d.range, hplaces⟩⟩
  · rintro ⟨⟨file, hfile⟩, ⟨message, hmessage⟩, hplace⟩
    have hrange : ∃ r, c.Locates offsets r ∨ c.LacksLocation offsets ∧ c.Places offsets r := by
      rcases hplace with hlocation | ⟨hlacks, hplace⟩
      · obtain ⟨r, hr⟩ := hasLocation_iff.mp hlocation
        exact ⟨r, Or.inl hr⟩
      · obtain ⟨r, hr⟩ := hasPlace_iff.mp hplace
        exact ⟨r, Or.inr ⟨hlacks, hr⟩⟩
    obtain ⟨r, hr⟩ := hrange
    exact ⟨⟨file, message, _, r, _⟩, hfile, hmessage, hr, code_eq.mp rfl, severity_eq.mp rfl⟩

/-- **Which matches become diagnostics**: those that supply file, message and a place, whatever
indices the table holds. The diagnostic is told by what was captured, and any other match is dropped
without an error. -/
theorem diagnostic?_describes (c : Capture) (offsets : FieldTable) :
    ((∃ d, c.diagnostic? offsets = some d) ↔ c.IsComplete offsets) ∧
      ∀ d, c.diagnostic? offsets = some d ↔ c.Describes offsets d := by
  refine ⟨?_, fun d => diagnostic?_eq_some⟩
  rw [← exists_describes_iff]
  exact exists_congr fun d => diagnostic?_eq_some

/-- Line and column do not make up for a location that has the right number of parts and a part
that is no integer. -/
theorem diagnostic?_eq_none_of_spoiled {location : String} {parts : List (List Char)}
    {part : List Char} (hlocation : c.Supplies offsets .location location)
    (hparts : Range.AreParts parts location.toList) (hcount : Range.IsCount parts.length)
    (hpart : part ∈ parts) (hspoiled : ∀ n, parseInt part ≠ .ok n) :
    c.diagnostic? offsets = none := by
  rw [Option.eq_none_iff_forall_ne_some]
  intro d hd
  -- every part of a location that is used is an integer, and one with that many parts is used
  rcases (diagnostic?_eq_some.mp hd).range with ⟨other, hother, hwritten⟩ | ⟨hlacks, -⟩
  · obtain rfl := hlocation.unique hother
    obtain ⟨others, hothers, -, hintegers⟩ := Range.exists_isWritten_iff.mp ⟨_, hwritten⟩
    rw [← Range.splitCommas_eq.mpr hparts, Range.splitCommas_eq.mpr hothers] at hpart
    obtain ⟨n, hn⟩ := hintegers part hpart
    exact hspoiled n hn
  · exact hlacks location hlocation ⟨parts, hparts, hcount⟩

end ProblemMatcher.Capture
