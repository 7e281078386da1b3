import Mathlib
import ProblemMatcher.Matcher.Compile

/-!
# The joined pattern in closed form

`Matcher.compile` goes over the patterns once and changes a table, a count and a list of sources as
it goes. Here the same three are given without a loop: the composite source, the number of groups,
and, for each field, the group that the last pattern to declare the field gives it.

1. `addAll_append`: only the last pattern may repeat, so joining is a fold over all but the last.
2. `prefix_joined`: what the patterns before the last amount to, by induction on how many there are.
3. `compile_closed_form`: the last pattern added, with its repetition.
-/

namespace ProblemMatcher

namespace Fragment

/-- Compiling the pattern without its anchors gives a regular expression or finds it malformed. -/
def IsJudged (f : Fragment) : Prop :=
  ∃ regex?, Regex.compile? (Matcher.stripAnchors f.source) = .ok regex?

/-- The groups of the pattern without its anchors, if that is well formed. -/
def groups? (f : Fragment) : Option Nat :=
  match Regex.compile? (Matcher.stripAnchors f.source) with
  | .ok (some regex) => some regex.groupCount
  | _ => none

def isUsable (f : Fragment) : Bool :=
  f.groups?.isSome

/-- A pattern that is malformed has no groups. -/
def groups (f : Fragment) : Nat :=
  f.groups?.getD 0

/-- What the pattern contributes to the composite source. -/
def piece (f : Fragment) (looped : Bool) : String :=
  if f.isUsable then
    if looped then Matcher.loopSource (Matcher.stripAnchors f.source)
    else Matcher.stripAnchors f.source
  else ""

theorem groups?_of_compile? {f : Fragment} {regex? : Option Regex}
    (h : Regex.compile? (Matcher.stripAnchors f.source) = .ok regex?) :
    f.groups? = regex?.map (·.groupCount) := by
  unfold groups?
  rw [h]
  cases regex? <;> rfl

end Fragment

namespace Matcher

/-! ## Joining as a fold -/

namespace Joined

/-- A pattern added to those before it, when compiling it gives a regular expression or finds it
malformed. -/
def next (j : Joined) (f : Fragment) (looped : Bool) : Joined :=
  match f.groups? with
  | some groups => j.addUsable f (stripAnchors f.source) groups looped
  | none => j.addEmpty

theorem add_eq_next {f : Fragment} (h : f.IsJudged) (j : Joined) (isLast : Bool) :
    j.add f isLast = .ok (j.next f (isLast && f.loop)) := by
  obtain ⟨regex?, hr⟩ := h
  unfold add next
  simp only [hr, Fragment.groups?_of_compile? hr]
  cases regex? <;> rfl

/-- The patterns before the last one, none of which may repeat. -/
def ofInitial (defaults : FieldTable) (initial : List Fragment) : Joined :=
  initial.foldl (fun j f => j.next f false) { offsets := defaults }

theorem addAll_append (j : Joined) (initial : List Fragment) (last : Fragment)
    (h : ∀ f ∈ initial ++ [last], f.IsJudged) :
    j.addAll (initial ++ [last]) =
      .ok ((initial.foldl (fun j f => j.next f false) j).next last last.loop) := by
  induction initial generalizing j with
  | nil => simp [addAll, add_eq_next (h last (by simp))]; rfl
  | cons f rest ih =>
    have hrest : (rest ++ [last]).isEmpty = false := by simp
    have htail : ∀ g ∈ rest ++ [last], g.IsJudged := fun g hg => h g (List.mem_cons_of_mem _ hg)
    rw [List.cons_append, addAll, hrest, add_eq_next (h f (by simp)), Bool.false_and,
      List.foldl_cons]
    show (j.next f false).addAll (rest ++ [last]) = _
    rw [ih (j.next f false) htail]

theorem next_sources (j : Joined) (f : Fragment) (looped : Bool) :
    (j.next f looped).sources = f.piece looped :: j.sources := by
  unfold next Fragment.piece Fragment.isUsable
  cases f.groups? <;> rfl

theorem next_usable (j : Joined) (f : Fragment) (looped : Bool) :
    (j.next f looped).usable = (j.usable || f.isUsable) := by
  unfold next Fragment.isUsable
  cases f.groups? with
  | none => exact (Bool.or_false _).symm
  | some groups => exact (Bool.or_true _).symm

theorem next_groupCount (j : Joined) (f : Fragment) (looped : Bool) :
    (j.next f looped).groupCount =
      j.groupCount + f.groups + if f.isUsable && looped then 1 else 0 := by
  unfold next Fragment.groups Fragment.isUsable
  cases f.groups? with
  | none => rfl
  | some groups =>
    cases looped
    · rfl
    · show j.groupCount + 1 + groups = j.groupCount + groups + 1
      omega

/-- A field that the added pattern declares gets the group it says, behind all groups before. -/
theorem get?_next_of_declared (j : Joined) {f : Fragment} (looped : Bool) {field : Field} {k : Int}
    (hu : f.isUsable = true) (hk : f.fields.get? field = some k) :
    (j.next f looped).offsets.get? field =
      if k < 0 then none else some (k + j.groupCount + if looped then 1 else 0) := by
  obtain ⟨groups, hg⟩ := Option.isSome_iff_exists.mp hu
  rw [FieldTable.get?] at hk
  unfold next
  simp only [hg, addUsable, FieldTable.get?, place, hk]
  by_cases hneg : k < 0
  · rw [if_pos hneg, if_pos hneg]
  · rw [if_neg hneg, if_neg hneg, Option.some.injEq]
    split_ifs <;> omega

/-- A field that the added pattern says nothing about keeps its group, which moves up if a
repetition puts a group in front of it. -/
theorem get?_next_of_silent (j : Joined) {f : Fragment} (looped : Bool) {field : Field}
    (h : f.isUsable = true → f.fields.get? field = none) :
    (j.next f looped).offsets.get? field = (j.offsets.get? field).map fun index =>
      if (f.isUsable && looped) = true ∧ (j.groupCount : Int) < index then index + 1 else index := by
  unfold next
  cases hg : f.groups? with
  | none =>
    have hu : f.isUsable = false := by rw [Fragment.isUsable, hg]; rfl
    simp [addEmpty, hu]
  | some groups =>
    have hu : f.isUsable = true := by rw [Fragment.isUsable, hg]; rfl
    have hk := h hu
    rw [FieldTable.get?] at hk
    cases looped
    · simp [addUsable, FieldTable.get?, place, hk]
    · simp only [addUsable, FieldTable.get?, place, hk, hu, if_true, shiftFrom, FieldTable.map,
        Bool.and_self, true_and]
      rfl

end Joined

/-! ## Groups before a pattern, and the last to declare a field -/

/-- The groups of the first `count` patterns. -/
def groupsBefore (fragments : List Fragment) (count : Nat) : Nat :=
  ((fragments.take count).map Fragment.groups).sum

theorem groupsBefore_append {initial : List Fragment} {count : Nat} (h : count ≤ initial.length)
    (more : List Fragment) : groupsBefore (initial ++ more) count = groupsBefore initial count := by
  unfold groupsBefore
  rw [List.take_append_of_le_length h]

theorem groupsBefore_length (fragments : List Fragment) :
    groupsBefore fragments fragments.length = (fragments.map Fragment.groups).sum := by
  rw [groupsBefore, List.take_length]

/-- The pattern at `index` is the last of the usable ones that declare the field, as its group
`k`. -/
structure LastDeclares (fragments : List Fragment) (field : Field) (index : Nat) (k : Int) :
    Prop where
  declares : ∃ f, fragments[index]? = some f ∧ f.isUsable = true ∧ f.fields.get? field = some k
  silent : ∀ later f, index < later → fragments[later]? = some f → f.isUsable = true →
    f.fields.get? field = none

/-- No usable pattern declares the field. -/
def Undeclared (fragments : List Fragment) (field : Field) : Prop :=
  ∀ f ∈ fragments, f.isUsable = true → f.fields.get? field = none

theorem LastDeclares.lt_length {fragments : List Fragment} {field : Field} {index : Nat} {k : Int}
    (h : LastDeclares fragments field index k) : index < fragments.length := by
  obtain ⟨f, hf, -⟩ := h.declares
  exact (List.getElem?_eq_some_iff.mp hf).1

/-- With one more pattern, that one is the last to declare a field or leaves it as it was. -/
theorem LastDeclares.of_append {initial : List Fragment} {last : Fragment} {field : Field}
    {index : Nat} {k : Int} (h : LastDeclares (initial ++ [last]) field index k) :
    (index = initial.length ∧ last.isUsable = true ∧ last.fields.get? field = some k) ∨
      ((last.isUsable = true → last.fields.get? field = none) ∧
        LastDeclares initial field index k) := by
  obtain ⟨f, hf, hu, hk⟩ := h.declares
  have hlt := h.lt_length
  rw [List.length_append, List.length_singleton] at hlt
  rcases Nat.lt_or_ge index initial.length with hi | hi
  · rw [List.getElem?_append_left hi] at hf
    refine Or.inr ⟨fun hl => h.silent initial.length last hi (by simp) hl, ⟨f, hf, hu, hk⟩, ?_⟩
    intro later g hlater hg
    refine h.silent later g hlater ?_
    rwa [List.getElem?_append_left (List.getElem?_eq_some_iff.mp hg).1]
  · obtain rfl : index = initial.length := by omega
    rw [List.getElem?_append_right (Nat.le_refl _), Nat.sub_self, List.getElem?_cons_zero,
      Option.some.injEq] at hf
    subst hf
    exact Or.inl ⟨rfl, hu, hk⟩

theorem Undeclared.of_append {initial : List Fragment} {last : Fragment} {field : Field}
    (h : Undeclared (initial ++ [last]) field) :
    (last.isUsable = true → last.fields.get? field = none) ∧ Undeclared initial field :=
  ⟨h last (by simp), fun f hf => h f (List.mem_append_left _ hf)⟩

/-! ## The patterns before the last -/

/-- A table of what the patterns declare, over the one beneath them. -/
structure Tabulates (defaults : FieldTable) (fragments : List Fragment) (table : FieldTable) :
    Prop where
  declared : ∀ field index k, LastDeclares fragments field index k →
    table.get? field = if k < 0 then none else some (k + groupsBefore fragments index)
  inherited : ∀ field, Undeclared fragments field → table.get? field = defaults.get? field

theorem prefix_joined (defaults : FieldTable) (initial : List Fragment) :
    let j := Joined.ofInitial defaults initial
    j.groupCount = (initial.map Fragment.groups).sum ∧
      j.sources.reverse = initial.map (·.piece false) ∧
      j.usable = initial.any Fragment.isUsable ∧ Tabulates defaults initial j.offsets := by
  -- patterns are added at the end, so the induction takes the last one off
  induction initial using List.reverseRecOn with
  | nil =>
    refine ⟨rfl, rfl, rfl, fun field index k h => ?_, fun field _ => rfl⟩
    exact absurd h.lt_length (Nat.not_lt_zero _)
  | append_singleton initial last ih =>
    obtain ⟨hcount, hsources, husable, htable⟩ := ih
    have hnext : Joined.ofInitial defaults (initial ++ [last]) =
        (Joined.ofInitial defaults initial).next last false := by
      simp [Joined.ofInitial, List.foldl_append]
    rw [hnext]
    refine ⟨?_, ?_, ?_, ?_, ?_⟩
    · rw [Joined.next_groupCount, hcount]
      simp
    · rw [Joined.next_sources, List.reverse_cons, hsources]
      simp
    · rw [Joined.next_usable, husable]
      simp
    · intro field index k h
      rcases h.of_append with ⟨rfl, hu, hk⟩ | ⟨hsilent, h⟩
      · rw [Joined.get?_next_of_declared _ false hu hk, hcount,
          groupsBefore_append (Nat.le_refl _), groupsBefore_length]
        simp
      · rw [Joined.get?_next_of_silent _ false hsilent, htable.declared field index k h,
          groupsBefore_append (Nat.le_of_lt h.lt_length)]
        simp
    · intro field h
      obtain ⟨hsilent, h⟩ := h.of_append
      rw [Joined.get?_next_of_silent _ false hsilent, htable.inherited field h]
      simp

/-! ## The closed form -/

variable (m : Matcher)

/-- The last pattern is usable and repeats. -/
def lastLoops : Bool :=
  m.fragments.getLast?.any fun f => f.isUsable && f.loop

/-- The groups of all patterns but the last. -/
def groupsBeforeLast : Nat :=
  groupsBefore m.fragments (m.fragments.length - 1)

def totalGroups : Nat :=
  (m.fragments.map Fragment.groups).sum + if m.lastLoops then 1 else 0

def pieces : List String :=
  m.fragments.dropLast.map (·.piece false) ++
    (m.fragments.getLast?.map fun f => f.piece f.loop).toList

def compositeSource : String :=
  "\\n".intercalate m.pieces

def compositeRegex? : Except Regex.Rejection (Option Regex) :=
  if m.fragments.any Fragment.isUsable then
    Regex.compile? m.compositeSource { multiline := true }
  else .ok none

/-- Where a group ends up when a repetition of the last pattern puts a group in front of that
pattern's own. -/
def moved (index : Int) : Int :=
  if m.lastLoops = true ∧ (m.groupsBeforeLast : Int) < index then index + 1 else index

/-- For each field, the group it has after joining. -/
structure ResolvesFields (table : FieldTable) : Prop where
  removed : ∀ field index k, LastDeclares m.fragments field index k → k < 0 →
    table.get? field = none
  looped : ∀ field index k, LastDeclares m.fragments field index k → 0 ≤ k →
    m.lastLoops = true → index + 1 = m.fragments.length →
    table.get? field = some (k + m.groupsBeforeLast + 1)
  placed : ∀ field index k, LastDeclares m.fragments field index k → 0 ≤ k →
    ¬ (m.lastLoops = true ∧ index + 1 = m.fragments.length) →
    table.get? field = some (m.moved (k + groupsBefore m.fragments index))
  inherited : ∀ field, Undeclared m.fragments field →
    table.get? field = ((m.defaults.get? field).filter (0 ≤ ·)).map m.moved

/-- What joining all patterns of a matcher yields. -/
structure JoinsTo (j : Joined) : Prop where
  groupCount : j.groupCount = m.totalGroups
  source : j.source = m.compositeSource
  usable : j.usable = m.fragments.any Fragment.isUsable
  offsets : m.ResolvesFields j.offsets.supplied

variable {m}

theorem lastLoops_append {initial : List Fragment} {last : Fragment}
    (h : m.fragments = initial ++ [last]) : m.lastLoops = (last.isUsable && last.loop) := by
  simp [lastLoops, h]

theorem groupsBeforeLast_append {initial : List Fragment} {last : Fragment}
    (h : m.fragments = initial ++ [last]) :
    m.groupsBeforeLast = (Joined.ofInitial m.defaults initial).groupCount := by
  have hlength : m.fragments.length = initial.length + 1 := by simp [h]
  rw [groupsBeforeLast, hlength, Nat.add_sub_cancel, h, groupsBefore_append (Nat.le_refl _),
    groupsBefore_length, (prefix_joined m.defaults initial).1]

/-- Moving a group never makes its index negative. -/
theorem moved_nonneg {index : Int} (h : 0 ≤ index) : 0 ≤ m.moved index := by
  unfold moved
  split_ifs <;> omega

theorem moved_of_neg {index : Int} (h : index < 0) : m.moved index = index := by
  unfold moved
  rw [if_neg (by omega)]

theorem joinsTo_nil (h : m.fragments = []) : m.JoinsTo { offsets := m.defaults } where
  groupCount := by simp [totalGroups, lastLoops, h]
  source := by simp [Joined.source, compositeSource, pieces, h]
  usable := by simp [h]
  offsets := by
    have hnone : ∀ field index k, ¬ LastDeclares m.fragments field index k := by
      intro field index k hd
      have := hd.lt_length
      simp [h] at this
    have hmoved : m.moved = id := by
      funext index
      simp [moved, lastLoops, h]
    refine ⟨fun _ _ _ hd => absurd hd (hnone _ _ _), fun _ _ _ hd => absurd hd (hnone _ _ _),
      fun _ _ _ hd => absurd hd (hnone _ _ _), fun field _ => ?_⟩
    rw [FieldTable.get?_supplied, hmoved, Option.map_id_apply]

/-- The last pattern over those before it. -/
theorem resolvesFields_append {initial : List Fragment} {last : Fragment}
    (h : m.fragments = initial ++ [last]) :
    m.ResolvesFields
      ((Joined.ofInitial m.defaults initial).next last last.loop).offsets.supplied := by
  obtain ⟨hcount, -, -, htable⟩ := prefix_joined m.defaults initial
  have hlength : m.fragments.length = initial.length + 1 := by simp [h]
  have hloops := lastLoops_append h
  have hbefore := groupsBeforeLast_append h
  refine ⟨?_, ?_, ?_, ?_⟩
  · -- a negative index removes the field
    intro field index k hd hk
    rw [h] at hd
    rw [FieldTable.get?_supplied]
    rcases hd.of_append with ⟨-, hu, hf⟩ | ⟨hsilent, hd⟩
    · rw [Joined.get?_next_of_declared _ _ hu hf, if_pos hk]
      rfl
    · rw [Joined.get?_next_of_silent _ _ hsilent, htable.declared field index k hd, if_pos hk]
      rfl
  · -- the last pattern repeats and declares the field itself
    intro field index k hd hk hl hindex
    rw [h] at hd
    rw [FieldTable.get?_supplied]
    rcases hd.of_append with ⟨-, hu, hf⟩ | ⟨-, hd⟩
    · have hloop : last.loop = true := by rw [hloops, hu, Bool.true_and] at hl; exact hl
      rw [Joined.get?_next_of_declared _ _ hu hf, if_neg (by omega), if_pos hloop, hbefore,
        Option.filter_some, if_pos (by simp only [decide_eq_true_eq]; omega)]
    · have := hd.lt_length
      omega
  · -- any other pattern declares it
    intro field index k hd hk hnot
    have hgroups : groupsBefore m.fragments index = groupsBefore initial index := by
      have := hd.lt_length
      rw [h, groupsBefore_append (by omega)]
    rw [h] at hd
    rw [FieldTable.get?_supplied]
    rcases hd.of_append with ⟨rfl, hu, hf⟩ | ⟨hsilent, hd⟩
    · have hloop : last.loop = false := by
        rw [hloops, hu, Bool.true_and, hlength] at hnot
        simpa using hnot
      have hstay : ∀ index, m.moved index = index := by simp [moved, hloops, hloop]
      rw [Joined.get?_next_of_declared _ _ hu hf, if_neg (by omega), hstay, hgroups,
        groupsBefore_length, ← hcount, Option.filter_some,
        if_pos (by simp only [decide_eq_true_eq]; split_ifs <;> omega), hloop]
      simp
    · rw [Joined.get?_next_of_silent _ _ hsilent, htable.declared field index k hd,
        if_neg (by omega), hgroups, Option.map_some, ← hbefore, ← hloops, ← moved,
        Option.filter_some, if_pos]
      exact decide_eq_true (moved_nonneg (by omega))
  · -- no pattern declares it
    intro field hundeclared
    rw [h] at hundeclared
    obtain ⟨hsilent, hinitial⟩ := hundeclared.of_append
    rw [FieldTable.get?_supplied, Joined.get?_next_of_silent _ _ hsilent,
      htable.inherited field hinitial, ← hbefore, ← hloops]
    cases m.defaults.get? field with
    | none => rfl
    | some index =>
      rw [Option.map_some, ← moved, Option.filter_some, Option.filter_some]
      by_cases hi : 0 ≤ index
      · rw [if_pos (decide_eq_true (moved_nonneg hi)), if_pos (decide_eq_true hi), Option.map_some]
      · rw [moved_of_neg (by omega), if_neg (by simpa using hi), Option.map_none]

theorem joinsTo_append {initial : List Fragment} {last : Fragment}
    (h : m.fragments = initial ++ [last]) :
    m.JoinsTo ((Joined.ofInitial m.defaults initial).next last last.loop) := by
  obtain ⟨hcount, hsources, husable, -⟩ := prefix_joined m.defaults initial
  have hloops := lastLoops_append h
  refine ⟨?_, ?_, ?_, ?_⟩
  · rw [Joined.next_groupCount, hcount, totalGroups, hloops, h]
    simp
  · rw [Joined.source, Joined.next_sources, List.reverse_cons, hsources, compositeSource, pieces, h]
    simp
  · rw [Joined.next_usable, husable, h]
    simp
  · exact resolvesFields_append h

theorem exists_joinsTo (h : ∀ f ∈ m.fragments, f.IsJudged) :
    ∃ j, Joined.addAll { offsets := m.defaults } m.fragments = .ok j ∧ m.JoinsTo j := by
  rcases List.eq_nil_or_concat m.fragments with hnil | ⟨initial, last, happ⟩
  · exact ⟨_, by rw [hnil]; rfl, joinsTo_nil hnil⟩
  · rw [List.concat_eq_append] at happ
    refine ⟨_, ?_, joinsTo_append happ⟩
    rw [happ] at h ⊢
    exact Joined.addAll_append _ initial last h

/-- Once the patterns are joined, the composite source is compiled. -/
theorem compile_of_joinsTo {j : Joined}
    (hj : Joined.addAll { offsets := m.defaults } m.fragments = .ok j) (h : m.JoinsTo j) :
    m.compile = m.compositeRegex?.map fun regex =>
      { source := m.compositeSource, groupCount := m.totalGroups, offsets := j.offsets.supplied,
        regex } := by
  unfold compile compositeRegex?
  rw [hj, ← h.groupCount, ← h.source, ← h.usable]
  simp only [bind, Except.bind]
  split_ifs with hu
  · cases Regex.compile? j.source { multiline := true } <;> rfl
  · rfl

/-- **The joined pattern in closed form.** If each pattern compiles or is malformed, compiling the
matcher compiles the composite source, and the rest of the result is given by the patterns: the
sum of their groups, their sources joined, and for each field the group that the last pattern
declaring it gives it, behind the groups of the patterns before that one. -/
theorem compile_closed_form (h : ∀ f ∈ m.fragments, f.IsJudged) :
    ∃ offsets, m.ResolvesFields offsets ∧
      m.compile = m.compositeRegex?.map fun regex =>
        { source := m.compositeSource, groupCount := m.totalGroups, offsets, regex } := by
  obtain ⟨j, hj, hjoins⟩ := exists_joinsTo h
  exact ⟨j.offsets.supplied, hjoins.offsets, compile_of_joinsTo hj hjoins⟩

/-- A malformed pattern in the middle, a repetition at the end, and fields that are removed,
declared or inherited. -/
def malformedMiddle : Matcher where
  fragments := [
    { source := "^(a)(b)$", fields := .ofList [(.file, 2), (.severity, 1)] },
    { source := "(" },
    { source := "(c)", fields := .ofList [(.message, 1), (.severity, -1)], loop := true }]
  defaults := .single

theorem compile_closed_form_malformedMiddle :
    (∀ f ∈ malformedMiddle.fragments, f.IsJudged) ∧ malformedMiddle.totalGroups = 4 ∧
      ∃ offsets, malformedMiddle.ResolvesFields offsets ∧
        malformedMiddle.compile = malformedMiddle.compositeRegex?.map fun regex =>
          { source := malformedMiddle.compositeSource
            groupCount := malformedMiddle.totalGroups
            offsets
            regex } := by
  have h : ∀ f ∈ malformedMiddle.fragments, f.IsJudged := by
    intro f hf
    simp only [malformedMiddle, List.mem_cons, List.not_mem_nil, or_false] at hf
    rcases hf with rfl | rfl | rfl <;> exact ⟨_, rfl⟩
  exact ⟨h, rfl, compile_closed_form h⟩

end Matcher

end ProblemMatcher
