import ProblemMatcher.Proofs.Declaration.SingleFields

/-!
# Fields in layers

The offsets of a single pattern come from three layers: the pattern object, `defaults`, and the
usual table. Negative indices are dropped in more than one place on the way, some before the layers
are put together and some after it; still the highest layer that says something about a field
decides alone.

1. `ofMembers_renumber`: the number of a matcher shows in its name only.
2. `compile_of_unlooped`: a single pattern compiles to the offsets that it declares.
3. `offsets_of_layers`: the offsets, layer by layer.
-/

namespace ProblemMatcher

open Json (Value)

namespace Members

variable {members : Members} {source : String} {index : Int} {m : Matcher} {stripped : Regex}

/-- What the highest layer that knows a field says about it: the pattern object, or else
`defaults`, or else the usual table. -/
def layeredIndex? (members : Members) (f : Field) : Option Int :=
  (members.patternIndex? f).or ((members.defaultIndex? f).or (FieldTable.single.get? f))

theorem singleIndex?_eq_filter (members : Members) (f : Field) :
    members.singleIndex? f = (members.layeredIndex? f).filter (0 ≤ ·) := rfl

/-- A matcher is accepted under any number, which shows in its name only. -/
theorem ofMembers_renumber (h : Matcher.ofMembers index members = .ok m) (other : Int) :
    Matcher.ofMembers other members = .ok { m with name := Matcher.nameOf other members } := by
  unfold Matcher.ofMembers at h ⊢
  obtain ⟨⟨fragments, base⟩, hshape, h⟩ := bind_eq_ok.mp h
  refine bind_eq_ok.mpr ⟨_, Matcher.shapeOfValue_eq_ok.mpr (Matcher.shapeOfValue_eq_ok.mp hshape), ?_⟩
  dsimp only at h ⊢
  split at h
  · obtain ⟨upper, hupper, h⟩ := bind_eq_ok.mp h
    cases h
    exact bind_eq_ok.mpr
      ⟨upper, Matcher.fieldTable_eq_ok.mpr (Matcher.fieldTable_eq_ok.mp hupper), rfl⟩
  · cases h

/-- A pattern that does not repeat and is usable compiles to the offsets that it declares. -/
theorem compile_of_unlooped (hm : Matcher.ofMembers index members = .ok m)
    (hsource : members.HasSource source) (hloops : ¬members.Loops)
    (husable : Regex.compile (Matcher.stripAnchors source) = .ok stripped) :
    ∃ c, m.compile = .ok c ∧ ∀ field, c.offsets.get? field = members.singleIndex? field := by
  obtain ⟨f, hf⟩ :=
    (Matcher.ofMembers_eq_ok.mp (ofMembers_renumber hm (0 : Nat))).2.isSingle hsource
  have hloop : f.loop = false := by
    rw [← Bool.not_eq_true, hf.loop]
    exact hloops
  rw [← hf.source_eq] at husable
  obtain ⟨c, hc⟩ := Matcher.exists_compile_of_single hf.fragments hloop husable
  exact ⟨c, hc, (hf.offsets_iff husable hc).mpr (Or.inl hloops)⟩

/-- **Each field has the group that the highest layer gives it.** A pattern that does not repeat and
is usable without its anchors compiles. A field has the index of the highest layer that says
something about it, if that is not negative, and no group otherwise. So what the pattern object says
counts whatever is below it, a negative index removes what a lower layer supplies, and another one
brings back what a lower layer removed; the same holds for `defaults` where the pattern object says
nothing. -/
theorem offsets_of_layers (hm : Matcher.ofMembers index members = .ok m)
    (hsource : members.HasSource source) (hloops : ¬members.Loops)
    (husable : Regex.compile (Matcher.stripAnchors source) = .ok stripped) :
    ∃ c, m.compile = .ok c ∧
      (∀ field i, c.offsets.get? field = some i ↔ members.layeredIndex? field = some i ∧ 0 ≤ i) ∧
      (∀ field k, members.patternIndex? field = some k →
        c.offsets.get? field = if k < 0 then none else some k) ∧
      ∀ field k, members.patternIndex? field = none → members.defaultIndex? field = some k →
        c.offsets.get? field = if k < 0 then none else some k := by
  obtain ⟨c, hc, hoffsets⟩ := compile_of_unlooped hm hsource hloops husable
  have hlayer : ∀ field k, members.layeredIndex? field = some k →
      c.offsets.get? field = if k < 0 then none else some k := by
    intro field k hk
    rw [hoffsets, singleIndex?_eq_filter, hk, Option.filter_some]
    by_cases hneg : k < 0
    · rw [if_pos hneg, if_neg (by simpa using hneg)]
    · rw [if_neg hneg, if_pos (by simpa using hneg)]
  refine ⟨c, hc, fun field i => ?_, fun field k hk => hlayer field k ?_,
    fun field k hpattern hk => hlayer field k ?_⟩
  · rw [hoffsets, singleIndex?_eq_filter, Option.filter_eq_some_iff, decide_eq_true_eq]
  · rw [layeredIndex?, hk, Option.some_or]
  · rw [layeredIndex?, hpattern, hk, Option.none_or, Option.some_or]

/-- A pattern that compiles without its anchor only. It brings back the file that `defaults` removes,
and removes the column that `defaults` supplies. -/
def restoringPattern : Members := [
  ("pattern", .obj [("regexp", .str "^(?i)(a):(1):(2) (m)"), ("file", .int 1), ("column", .int (-1)),
    ("loop", .bool false)]),
  ("defaults", .obj [("file", .int (-1)), ("column", .int 2), ("code", .int 3)])]

theorem offsets_of_layers_restoringPattern :
    ∃ m c stripped, Matcher.ofMembers (-1) restoringPattern = .ok m ∧
      restoringPattern.HasSource "^(?i)(a):(1):(2) (m)" ∧ ¬restoringPattern.Loops ∧
      Regex.compile (Matcher.stripAnchors "^(?i)(a):(1):(2) (m)") = .ok stripped ∧
      m.compile = .ok c ∧ c.offsets.get? .file = some 1 ∧ c.offsets.get? .column = none ∧
      c.offsets.get? .code = some 3 := by
  have hsource : restoringPattern.HasSource "^(?i)(a):(1):(2) (m)" := .object rfl rfl
  have hloops : ¬restoringPattern.Loops := by
    rintro ⟨p, hp, hon⟩
    cases hp
    cases hon
  obtain ⟨m, hm⟩ : ∃ m, Matcher.ofMembers (-1) restoringPattern = .ok m :=
    Declaration.exists_of_isOk (by cbv)
  obtain ⟨stripped, hstripped⟩ : ∃ stripped,
      Regex.compile (Matcher.stripAnchors "^(?i)(a):(1):(2) (m)") = .ok stripped := ⟨_, rfl⟩
  obtain ⟨c, hc, -, hpattern, hdefaults⟩ := offsets_of_layers hm hsource hloops hstripped
  exact ⟨m, c, stripped, hm, hsource, hloops, hstripped, hc, hpattern .file 1 rfl,
    hpattern .column (-1) rfl, hdefaults .code 3 rfl rfl⟩

end Members

end ProblemMatcher
