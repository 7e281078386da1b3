import ProblemMatcher.Proofs.Declaration.SameSource
import ProblemMatcher.Proofs.Matcher.Acceptance

/-!
# The fields a single pattern is tried with

A single pattern is tried as it is written, with the offsets that its matcher compiles to. A matcher
whose pattern does not repeat leaves the groups where they are, so the fields are read from the
groups that the declaration names. A repetition puts a group in front, which the pattern as it is
written does not have, and the fields are read from the groups after those.

1. `singleIndex?`: the group that a declaration gives to a field.
2. `get?_offsets_of_single`: the offsets of a matcher with one pattern.
3. `pattern?_eq_of_declared`: what the declaration is tried with.
4. `pattern?_reads_declared`: when the fields are those declared.
-/

namespace ProblemMatcher

open Json (Value)

namespace Members

variable (members : Members)

/-- The index that a pattern object gives to a field. -/
def patternIndex? (f : Field) : Option Int :=
  match members.get? "pattern" with
  | some (.obj p) => Matcher.index? p f
  | _ => none

/-- The group that a field has in a single pattern: that of the pattern object, or else that of
`defaults`, or else the usual one. A negative index stands for none. -/
def singleIndex? (f : Field) : Option Int :=
  ((members.patternIndex? f).or
    ((members.defaultIndex? f).or (FieldTable.single.get? f))).filter (0 ≤ ·)

/-- The members declare the source as their only pattern, alone or in an object. -/
inductive HasSource (source : String) : Prop
  | text (h : members.get? "pattern" = some (.str source))
  | object {p : Members} (h : members.get? "pattern" = some (.obj p))
    (hsource : p.get? "regexp" = some (.str source))

/-- The pattern object says that the pattern repeats. -/
def Loops : Prop :=
  ∃ p : Members, members.get? "pattern" = some (.obj p) ∧ p.get? "loop" = some (.bool true)

variable {members} {source : String} {index : Nat} {m : Matcher}

/-- A matcher that declares one pattern has the one fragment that the pattern declares. -/
structure IsSingle (members : Members) (source : String) (m : Matcher) (f : Fragment) : Prop where
  fragments : m.fragments = [f]
  source_eq : f.source = source
  loop : f.loop = true ↔ members.Loops
  fields : ∀ field, f.fields.get? field = members.patternIndex? field
  chained : m.chained = false
  defaults : ∀ field, m.defaults.get? field =
    ((members.defaultIndex? field).or (FieldTable.single.get? field)).filter (0 ≤ ·)

theorem HasSource.exists_value (hsource : members.HasSource source) :
    ∃ v, members.get? "pattern" = some v ∧ Matcher.patternsIn v = [v] ∧ ∀ items, v ≠ .arr items := by
  cases hsource with
  | text h => exact ⟨_, h, rfl, nofun⟩
  | object h => exact ⟨_, h, rfl, nofun⟩

theorem DeclaresMatcher.exists_fragment (h : members.DeclaresMatcher index m)
    (hsource : members.HasSource source) :
    m.chained = false ∧ ∃ v f, members.get? "pattern" = some v ∧ Matcher.Declares v f ∧
      m.fragments = [f] := by
  obtain ⟨v, hv, hpatterns, hnot⟩ := hsource.exists_value
  refine ⟨?_, ?_⟩
  · rw [← Bool.not_eq_true, h.chained]
    rintro ⟨items, hitems⟩
    exact hnot items (Option.some.inj (hv.symm.trans hitems))
  · obtain ⟨v', hv', hdeclares⟩ := h.fragments
    obtain rfl : v = v' := Option.some.inj (hv.symm.trans hv')
    rw [hpatterns, List.forall₂_cons_left_iff] at hdeclares
    obtain ⟨f, rest, hf, hrest, hfragments⟩ := hdeclares
    rw [List.forall₂_nil_left_iff] at hrest
    subst hrest
    exact ⟨v, f, hv, hf, hfragments⟩

/-- A pattern object says that its pattern repeats, or says nothing. -/
theorem loops_iff {p : Members} (hp : members.get? "pattern" = some (.obj p)) {loop : Bool}
    (hloop : (p.get? "loop").getD (.bool false) = .bool loop) : loop = true ↔ members.Loops := by
  constructor
  · rintro rfl
    refine ⟨p, hp, ?_⟩
    cases hfound : p.get? "loop" with
    | none =>
      rw [hfound] at hloop
      cases hloop
    | some w =>
      rw [hfound] at hloop
      exact congrArg some hloop
  · rintro ⟨p', hp', hon⟩
    cases hp.symm.trans hp'
    rw [hon] at hloop
    exact (Value.bool.inj hloop).symm

theorem DeclaresMatcher.isSingle (h : members.DeclaresMatcher index m)
    (hsource : members.HasSource source) : ∃ f, IsSingle members source m f := by
  obtain ⟨hchained, v, f, hv, hf, hfragments⟩ := h.exists_fragment hsource
  have hdefaults := h.defaults
  rw [hchained] at hdefaults
  cases hsource with
  | text htext =>
    cases hv.symm.trans htext
    cases hf
    refine ⟨_, hfragments, rfl, ⟨nofun, ?_⟩, fun field => ?_, hchained, hdefaults⟩
    · rintro ⟨p, hp, -⟩
      rw [htext] at hp
      cases hp
    · unfold patternIndex?
      rw [htext]
      rfl
  | @object p hp hregexp =>
    cases hv.symm.trans hp
    cases hf with
    | object hsource hloop hfields =>
      rw [hregexp] at hsource
      cases hsource
      refine ⟨f, hfragments, rfl, loops_iff hp hloop, fun field => Option.ext fun n => ?_,
        hchained, hdefaults⟩
      unfold patternIndex?
      rw [hp, hfields]
      exact Matcher.index?_eq_some.symm

end Members

/-! ## Offsets of a matcher with one pattern -/

namespace Matcher

variable {m : Matcher} {f : Fragment} {c : CompiledMatcher} {stripped : Regex}

theorem offsets_of_single (hm : m.fragments = [f])
    (husable : Regex.compile (stripAnchors f.source) = .ok stripped) (h : m.compile = .ok c) :
    c.offsets = ((Joined.ofInitial m.defaults []).next f f.loop).offsets.supplied := by
  have hjudged : ∀ g ∈ [] ++ [f], g.IsJudged := by
    intro g hg
    obtain rfl := List.mem_singleton.mp hg
    exact ⟨some stripped, Regex.compile?_eq_some.mpr husable⟩
  have happend : m.fragments = [] ++ [f] := hm
  have hjoined : Joined.addAll { offsets := m.defaults } m.fragments =
      .ok ((Joined.ofInitial m.defaults []).next f f.loop) :=
    happend ▸ Joined.addAll_append { offsets := m.defaults } [] f hjudged
  rw [compile_of_joinsTo hjoined (joinsTo_append happend), map_eq_ok] at h
  obtain ⟨regex, -, rfl⟩ := h
  rfl

/-- A field that the pattern declares has the group that it says, behind the group of a
repetition. -/
theorem get?_offsets_of_declared (hm : m.fragments = [f])
    (husable : Regex.compile (stripAnchors f.source) = .ok stripped) (h : m.compile = .ok c)
    {field : Field} {k : Int} (hk : f.fields.get? field = some k) :
    c.offsets.get? field = if k < 0 then none else some (if f.loop then k + 1 else k) := by
  have hisUsable : f.isUsable = true := by
    rw [Fragment.isUsable, Fragment.groups?_of_compile? (Regex.compile?_eq_some.mpr husable)]
    rfl
  rw [offsets_of_single hm husable h, FieldTable.get?_supplied,
    Joined.get?_next_of_declared _ f.loop hisUsable hk]
  have hcount : ((Joined.ofInitial m.defaults []).groupCount : Int) = 0 := rfl
  rw [hcount]
  split_ifs
  · rfl
  · rw [Option.filter_some, if_pos (by simp only [decide_eq_true_eq]; omega), Int.add_zero]
  · rw [Option.filter_some, if_pos (by simp only [decide_eq_true_eq]; omega), Int.add_zero,
      Int.add_zero]

/-- A field that the pattern says nothing about keeps the group it has in the table underneath,
unless a repetition puts a group in front of it. -/
theorem get?_offsets_of_silent (hm : m.fragments = [f])
    (husable : Regex.compile (stripAnchors f.source) = .ok stripped) (h : m.compile = .ok c)
    {field : Field} (hk : f.fields.get? field = none) :
    c.offsets.get? field = ((m.defaults.get? field).filter (0 ≤ ·)).map fun index =>
      if f.loop = true ∧ 0 < index then index + 1 else index := by
  have hisUsable : f.isUsable = true := by
    rw [Fragment.isUsable, Fragment.groups?_of_compile? (Regex.compile?_eq_some.mpr husable)]
    rfl
  rw [offsets_of_single hm husable h, FieldTable.get?_supplied,
    Joined.get?_next_of_silent _ f.loop fun _ => hk, hisUsable, Bool.true_and]
  have hdefaults : (Joined.ofInitial m.defaults []).offsets = m.defaults := rfl
  have hcount : ((Joined.ofInitial m.defaults []).groupCount : Int) = 0 := rfl
  rw [hdefaults, hcount]
  cases m.defaults.get? field with
  | none => rfl
  | some index =>
    rw [Option.map_some, Option.filter_some, Option.filter_some]
    -- a negative index is removed on both sides, whether or not it was moved
    by_cases hindex : 0 ≤ index
    · rw [if_pos (decide_eq_true hindex), Option.map_some, if_pos]
      split_ifs
      · exact decide_eq_true (by omega)
      · exact decide_eq_true hindex
    · have hstay : ¬(f.loop = true ∧ 0 < index) := by omega
      rw [if_neg hstay, if_neg (by simpa using hindex), Option.map_none]

end Matcher

namespace Members

variable {members : Members} {source : String} {index : Nat} {m : Matcher} {f : Fragment}
variable {c : CompiledMatcher} {regex stripped : Regex}

/-- The field has a group that comes behind the group of a repetition: the pattern object gives it
one, or its group is not that of the whole match. -/
def Moves (members : Members) (field : Field) : Prop :=
  ∃ i, members.singleIndex? field = some i ∧ (members.patternIndex? field ≠ none ∨ 0 < i)

/-- The offsets of a matcher with one pattern are those that it declares, moved up by a
repetition. -/
theorem IsSingle.get?_offsets (hf : IsSingle members source m f)
    (husable : Regex.compile (Matcher.stripAnchors f.source) = .ok stripped)
    (h : m.compile = .ok c) (field : Field) :
    c.offsets.get? field = (members.singleIndex? field).map fun i =>
      if f.loop = true ∧ (members.patternIndex? field ≠ none ∨ 0 < i) then i + 1 else i := by
  unfold singleIndex?
  cases hown : members.patternIndex? field with
  | none =>
    rw [Matcher.get?_offsets_of_silent hf.fragments husable h ((hf.fields field).trans hown),
      Option.none_or, ← hf.defaults]
    -- the table underneath has lost its negative indices already
    have hfilter : (m.defaults.get? field).filter (0 ≤ ·) = m.defaults.get? field := by
      rw [hf.defaults, Option.filter_filter]
      simp only [Bool.and_self]
    rw [hfilter]
    simp
  | some k =>
    rw [Matcher.get?_offsets_of_declared hf.fragments husable h ((hf.fields field).trans hown),
      Option.some_or, Option.filter_some]
    by_cases hk : k < 0
    · rw [if_pos hk, if_neg (by simpa using hk)]
      rfl
    · rw [if_neg hk, if_pos (decide_eq_true (by omega))]
      simp

theorem IsSingle.offsets_iff (hf : IsSingle members source m f)
    (husable : Regex.compile (Matcher.stripAnchors f.source) = .ok stripped)
    (h : m.compile = .ok c) :
    (∀ field, c.offsets.get? field = members.singleIndex? field) ↔
      ¬members.Loops ∨ ∀ field, ¬members.Moves field := by
  simp only [hf.get?_offsets husable h]
  constructor
  · intro hall
    -- a field that moves would have its group and the one after it
    by_cases hloop : f.loop = true
    · right
      rintro field ⟨i, hi, hmoves⟩
      have hfield := hall field
      rw [hi, Option.map_some, if_pos ⟨hloop, hmoves⟩, Option.some.injEq] at hfield
      omega
    · exact Or.inl (hf.loop.not.mp hloop)
  · intro hstays field
    cases hi : members.singleIndex? field with
    | none => rfl
    | some i =>
      rw [Option.map_some, if_neg]
      rintro ⟨hloop, hmoves⟩
      rcases hstays with hloops | hstays
      · exact hloops (hf.loop.mp hloop)
      · exact hstays field ⟨i, hi, hmoves⟩

end Members

namespace Declaration

open Regex

variable {members : Members} {source : String} {index : Nat} {m : Matcher} {f : Fragment}
variable {d : Declaration} {ds : List Declaration} {regex : Regex}

/-- A pattern with a matcher of its own is tried as it is written, with the offsets of the
matcher. -/
theorem pattern?_eq_of_declared (hf : Members.IsSingle members source m f)
    (hregex : Regex.compile source = .ok regex) (hd : d.source = some source) :
    d.pattern? ds [m] = m.compile.map fun c => some { regex, offsets := c.offsets } := by
  have hmatcher : matcherOf? source [m] = some m := by
    unfold matcherOf?
    rw [List.find?_cons_of_pos]
    simp [hf.chained, hf.fragments, hf.source_eq]
  rw [← hf.source_eq] at hd hmatcher hregex
  rw [pattern?_of_source hd hmatcher, Matcher.asWritten]
  cases m.compile with
  | error cause => rfl
  | ok c => exact Matcher.ofSource_of_compile hregex c.offsets

/-- **When the fields of a single pattern are read from the groups that its declaration names.** A
pattern that does not repeat can always be tried, and what is tried is the pattern as it is written.
Its offsets are those declared if and only if it does not repeat, or no field has a group that a
repetition would move. -/
theorem pattern?_reads_declared (hm : Matcher.ofMembers index members = .ok m)
    (hsource : members.HasSource source) (hregex : Regex.compile source = .ok regex)
    (hd : d.source = some source) (ds : List Declaration) :
    (¬members.Loops → ∃ p, d.pattern? ds [m] = .ok (some p)) ∧
      ∀ p, d.pattern? ds [m] = .ok (some p) → p.regex = regex ∧
        ((∀ field, p.offsets.get? field = members.singleIndex? field) ↔
          ¬members.Loops ∨ ∀ field, ¬members.Moves field) := by
  obtain ⟨f, hf⟩ := (Matcher.ofMembers_eq_ok.mp hm).2.isSingle hsource
  obtain ⟨stripped, hstripped, -, -⟩ := Matcher.compile_stripAnchors hregex
  rw [← hf.source_eq] at hstripped
  rw [pattern?_eq_of_declared hf hregex hd]
  constructor
  · intro hloops
    have hloop : f.loop = false := by
      rw [← Bool.not_eq_true, hf.loop]
      exact hloops
    obtain ⟨joined, hjoined, -⟩ := Regex.compile_multiline hstripped
    rw [Regex.Flags.plain_union] at hjoined
    obtain ⟨c, hc, -⟩ := Matcher.compile_of_single hf.fragments hloop hstripped hjoined
    exact ⟨_, map_eq_ok.mpr ⟨c, hc, rfl⟩⟩
  · intro p hp
    obtain ⟨c, hc, hp⟩ := map_eq_ok.mp hp
    cases hp
    exact ⟨rfl, hf.offsets_iff hstripped hc⟩

theorem exists_of_isOk {ε α : Type} {x : Except ε α} (h : x.isOk = true) : ∃ a, x = .ok a := by
  cases x with
  | error cause => cases h
  | ok a => exact ⟨a, rfl⟩

/-- A pattern with fields of its own over `defaults`, one of which it removes. -/
def layeredPattern : Members := [
  ("name", .str "layered"),
  ("pattern", .obj [("regexp", .str "^(a):(1):(2) (m)$"), ("code", .int 2), ("column", .int (-1))]),
  ("defaults", .obj [("endLine", .int 2), ("column", .int 2)])]

theorem pattern?_reads_declared_layeredPattern :
    ∃ m regex p, Matcher.ofMembers 0 layeredPattern = .ok m ∧
      layeredPattern.HasSource "^(a):(1):(2) (m)$" ∧
      Regex.compile "^(a):(1):(2) (m)$" = .ok regex ∧ ¬layeredPattern.Loops ∧
      Declaration.pattern? ⟨0, 0, 0, some "^(a):(1):(2) (m)$"⟩ [] [m] = .ok (some p) ∧
      p.regex = regex ∧ ∀ field, p.offsets.get? field = layeredPattern.singleIndex? field := by
  have hsource : layeredPattern.HasSource "^(a):(1):(2) (m)$" := .object rfl rfl
  have hloops : ¬layeredPattern.Loops := by
    rintro ⟨p, hp, hon⟩
    cases hp
    cases hon
  obtain ⟨m, hm⟩ : ∃ m, Matcher.ofMembers (0 : Nat) layeredPattern = .ok m :=
    exists_of_isOk (by cbv)
  obtain ⟨regex, hregex⟩ : ∃ regex, Regex.compile "^(a):(1):(2) (m)$" = .ok regex := ⟨_, rfl⟩
  obtain ⟨hexists, hall⟩ := pattern?_reads_declared (d := ⟨0, 0, 0, some _⟩) hm hsource hregex
    rfl []
  obtain ⟨p, hp⟩ := hexists hloops
  obtain ⟨hpregex, hfields⟩ := hall p hp
  exact ⟨m, regex, p, hm, hsource, hregex, hloops, hp, hpregex, hfields.mpr (Or.inl hloops)⟩

/-- A pattern that repeats, although it stands alone. -/
def repeatedPattern : Members := [
  ("pattern", .obj [("regexp", .str "(a):(1):(2) (m)"), ("loop", .bool true), ("file", .int 1),
    ("line", .int 2), ("column", .int 3), ("message", .int 4)])]

/-- Of a pattern that repeats, the fields are not read from the groups that its declaration
names. -/
theorem not_reads_declared_repeatedPattern :
    repeatedPattern.HasSource "(a):(1):(2) (m)" ∧
      (∃ regex, Regex.compile "(a):(1):(2) (m)" = .ok regex) ∧
      ¬∀ (m : Matcher) (d : Declaration) (ds : List Declaration),
        Matcher.ofMembers 0 repeatedPattern = .ok m → d.source = some "(a):(1):(2) (m)" →
          ∃ p, d.pattern? ds [m] = .ok (some p) ∧
            ∀ field, p.offsets.get? field = repeatedPattern.singleIndex? field := by
  have hsource : repeatedPattern.HasSource "(a):(1):(2) (m)" := .object rfl rfl
  obtain ⟨regex, hregex⟩ : ∃ regex, Regex.compile "(a):(1):(2) (m)" = .ok regex := ⟨_, rfl⟩
  refine ⟨hsource, ⟨regex, hregex⟩, fun h => ?_⟩
  obtain ⟨m, hm⟩ : ∃ m, Matcher.ofMembers (0 : Nat) repeatedPattern = .ok m :=
    exists_of_isOk (by cbv)
  obtain ⟨f, hf⟩ := (Matcher.ofMembers_eq_ok.mp hm).2.isSingle hsource
  obtain ⟨stripped, hstripped, -, -⟩ := Matcher.compile_stripAnchors hregex
  rw [← hf.source_eq] at hstripped
  obtain ⟨p, hp, hfields⟩ := h m ⟨0, 0, 0, some "(a):(1):(2) (m)"⟩ [] hm rfl
  rw [pattern?_eq_of_declared hf hregex rfl] at hp
  obtain ⟨c, hc, hp⟩ := map_eq_ok.mp hp
  cases hp
  rcases (hf.offsets_iff hstripped hc).mp hfields with hloops | hstays
  · exact hloops ⟨_, rfl, rfl⟩
  · exact hstays .file ⟨1, rfl, Or.inr Int.one_pos⟩

end Declaration

end ProblemMatcher
