import ProblemMatcher.Matcher.Declared
import ProblemMatcher.Proofs.Attempt

/-!
# The grammar of declared matchers

Which values declare matchers, and which matchers they declare, told without the order in which a
declaration is gone through.

1. `Members.IsPattern`, `Members.IsMatcher`, `HoldsMatchers`: the grammar.
2. `Declares`, `DeclaresMatcher`: what is declared.
3. `BreaksAt`: the first part that breaks a rule, as a message names it.
4. `fieldTable_eq_ok`, `fragmentOfValue_eq_ok`, `fragmentsOfValues_eq_ok`: patterns are read if they
   are of the grammar, and then as they are declared.
-/

namespace ProblemMatcher

open Json (Value)

/-! ## The grammar -/

namespace Members

/-- The members use no name but those allowed, and give an index to each field that they name. -/
structure IsTable (members : Members) (allowed : List String) : Prop where
  known : ∀ name ∈ members.names, name ∈ allowed
  indices : ∀ (f : Field) v, members.get? f.key = some v → ∃ n, v = .int n

/-- The members of a pattern object. -/
structure IsPattern (members : Members) : Prop where
  source : ∃ source, members.get? "regexp" = some (.str source)
  loop : ∀ v, members.get? "loop" = some v → ∃ b, v = .bool b
  table : members.IsTable Matcher.patternNames

end Members

namespace Matcher

/-- A value that declares a pattern. -/
inductive IsPattern : Value → Prop
  | text (source : String) : IsPattern (.str source)
  | object {members : Members} (h : members.IsPattern) : IsPattern (.obj members)

/-- A value that may stand for `pattern`: one pattern, or a list of at least one. -/
inductive IsShape : Value → Prop
  | single {v : Value} (h : IsPattern v) : IsShape v
  | chain {items : List Value} (hne : items ≠ []) (h : ∀ v ∈ items, IsPattern v) :
    IsShape (.arr items)

end Matcher

/-- The members of an object that declares a matcher. -/
structure Members.IsMatcher (members : Members) : Prop where
  pattern : ∃ v, members.get? "pattern" = some v ∧ Matcher.IsShape v
  defaults : ∀ v, members.get? "defaults" = some v →
    ∃ table : Members, v = .obj table ∧ table.IsTable Matcher.fieldNames

namespace Matcher

/-- A value that declares a matcher. -/
inductive IsMatcher : Value → Prop
  | object {members : Members} (h : members.IsMatcher) : IsMatcher (.obj members)

/-- A document that keeps declarations in the place for them: it is their list, or an object whose
`contributes`, or itself without one, is an object that has the list as `problemMatchers`. No
`problemMatchers` are an empty list. -/
def HoldsMatchers (doc : Value) (items : List Value) : Prop :=
  doc = .arr items ∨
    ∃ members contributes : Members, doc = .obj members ∧
      (members.get? "contributes").getD (.obj members) = .obj contributes ∧
      (contributes.get? "problemMatchers").getD (.arr []) = .arr items

/-! ## What is declared -/

/-- A value declares a pattern with just its source, its fields and whether it repeats. -/
inductive Declares : Value → Fragment → Prop
  | text (source : String) : Declares (.str source) { source }
  | object {members : Members} {f : Fragment}
    (source : members.get? "regexp" = some (.str f.source))
    (loop : (members.get? "loop").getD (.bool false) = .bool f.loop)
    (fields : ∀ field n, f.fields.get? field = some n ↔
      members.get? field.key = some (.int n)) : Declares (.obj members) f

/-- The patterns in what stands for `pattern`. -/
def patternsIn : Value → List Value
  | .arr items => items
  | v => [v]

end Matcher

namespace Members

open Matcher

/-- The index that `defaults` gives to a field. -/
def defaultIndex? (members : Members) (f : Field) : Option Int :=
  match members.get? "defaults" with
  | some (.obj table) => index? table f
  | _ => none

/-- The members declare a matcher that has this number among all. -/
structure DeclaresMatcher (members : Members) (index : Nat) (m : Matcher) : Prop where
  fragments : ∃ v, members.get? "pattern" = some v ∧ List.Forall₂ Declares (patternsIn v) m.fragments
  chained : m.chained = true ↔ ∃ items, members.get? "pattern" = some (.arr items)
  defaults : ∀ f, m.defaults.get? f = ((members.defaultIndex? f).or
    ((if m.chained then FieldTable.empty else .single).get? f)).filter (0 ≤ ·)
  name : members.get? "name" = some (.str m.name) ∨
    (∀ name, members.get? "name" ≠ some (.str name)) ∧ m.name = "#" ++ toString index

end Members

namespace Matcher

/-- A value declares a matcher that has this number among all. -/
inductive DeclaresMatcher : Value → Nat → Matcher → Prop
  | object {members : Members} {index : Nat} {m : Matcher} (h : members.DeclaresMatcher index m) :
    DeclaresMatcher (.obj members) index m

end Matcher

/-! ## What messages name -/

namespace DeclarationError

/-- The message names the place before it says what is wrong there. -/
def IsAbout (fault : DeclarationError) (place : String) : Prop :=
  (place ++ ": ").toList <+: fault.message.toList

/-- The place that a fault has, unless it is the document as a whole. -/
def place? : DeclarationError → Option String
  | contributesNotObject | matchersNotList => none
  | matcherNotObject index _ => some (MatcherLabel.numbered index).text
  | noPattern label | emptyChain label | defaultsNotObject label => some label.text
  | patternNotObject part _ | sourceNotText part | loopNotBoolean part | unknownNames part _
  | wrongIndex part _ _ => some part.text

theorem isAbout_of_place? {fault : DeclarationError} {place : String}
    (h : fault.place? = some place) : fault.IsAbout place := by
  unfold IsAbout
  cases fault <;> cases h <;>
    simp [message, MatcherLabel.text, toString, List.prefix_append_right_inj]

end DeclarationError

/-- How messages call an object that should declare a matcher: by its name, or by its number. -/
def Members.label (members : Members) (index : Nat) : String :=
  match members.get? "name" with
  | some (.str name) => "matcher " ++ Text.quoted name
  | _ => "matcher #" ++ toString index

namespace Matcher

/-- How messages call a value that should declare a matcher. -/
def label (index : Nat) : Value → String
  | .obj members => Members.label members index
  | _ => "matcher #" ++ toString index

/-- The first part of a value that breaks a rule for matchers, as messages name it. -/
inductive BreaksAt (index : Nat) : Value → String → Prop
  | whole {v : Value} (h : ∀ members, v ≠ .obj members) : BreaksAt index v (label index v)
  | shape {members : Members}
    (h : ∀ v, members.get? "pattern" = some v →
      (∀ source, v ≠ .str source) ∧ (∀ p, v ≠ .obj p) ∧ ∀ items, v = .arr items → items = []) :
    BreaksAt index (.obj members) (members.label index)
  | pattern {members p : Members} (hp : members.get? "pattern" = some (.obj p))
    (h : ¬p.IsPattern) : BreaksAt index (.obj members) (members.label index ++ ", pattern")
  | chainPattern {members : Members} {before after : List Value} {v : Value}
    (hp : members.get? "pattern" = some (.arr (before ++ v :: after)))
    (hbefore : ∀ w ∈ before, IsPattern w) (h : ¬IsPattern v) :
    BreaksAt index (.obj members) (members.label index ++ ", pattern #" ++ toString before.length)
  | defaultsKind {members : Members} {v : Value}
    (hp : ∃ p, members.get? "pattern" = some p ∧ IsShape p)
    (hd : members.get? "defaults" = some v) (h : ∀ table, v ≠ .obj table) :
    BreaksAt index (.obj members) (members.label index)
  | defaults {members table : Members} (hp : ∃ p, members.get? "pattern" = some p ∧ IsShape p)
    (hd : members.get? "defaults" = some (.obj table)) (h : ¬table.IsTable fieldNames) :
    BreaksAt index (.obj members) (members.label index ++ ", defaults")

/-! ## Tables of fields -/

section

variable {part : DeclarationPart} {allowed : List String} {members : Members}

theorem unknownNames_eq_nil :
    unknownNames allowed members = [] ↔ ∀ name ∈ members.names, name ∈ allowed := by
  rw [unknownNames, ← List.length_eq_zero_iff, List.length_mergeSort, List.length_eq_zero_iff,
    List.filter_eq_nil_iff]
  simp

theorem wrongValue?_eq_none {f : Field} :
    wrongValue? members f = none ↔ ∀ v, members.get? f.key = some v → ∃ n, v = .int n := by
  unfold wrongValue?
  cases members.get? f.key with
  | none => simp
  | some v => cases v <;> simp

theorem index?_eq_some {f : Field} {n : Int} :
    index? members f = some n ↔ members.get? f.key = some (.int n) := by
  unfold index?
  cases members.get? f.key with
  | none => simp
  | some v => cases v <;> simp

theorem mem_fieldsByName (f : Field) : f ∈ fieldsByName := by
  cases f <;> decide

theorem firstWrong_eq_none :
    (fieldsByName.findSome? fun f => (wrongValue? members f).map (f, ·)) = none ↔
      ∀ (f : Field) v, members.get? f.key = some v → ∃ n, v = .int n := by
  rw [List.findSome?_eq_none_iff]
  constructor
  · intro h f
    exact wrongValue?_eq_none.mp (Option.map_eq_none_iff.mp (h f (mem_fieldsByName f)))
  · intro h f _
    exact Option.map_eq_none_iff.mpr (wrongValue?_eq_none.mpr (h f))

theorem fieldTable_eq_ok {t : FieldTable} :
    fieldTable part allowed members = .ok t ↔ members.IsTable allowed ∧ t = index? members := by
  unfold fieldTable
  split
  · rename_i hknown
    split
    · rename_i f v hwrong
      have : ¬members.IsTable allowed := by
        intro h
        rw [firstWrong_eq_none.mpr h.indices] at hwrong
        cases hwrong
      simp [this]
    · rename_i hright
      have : members.IsTable allowed :=
        ⟨unknownNames_eq_nil.mp hknown, firstWrong_eq_none.mp hright⟩
      exact ⟨fun h => ⟨this, (Except.ok.inj h).symm⟩, fun h => congrArg Except.ok h.2.symm⟩
  · rename_i hunknown
    have : ¬members.IsTable allowed := fun h => hunknown (unknownNames_eq_nil.mpr h.known)
    simp [this]

theorem fieldTable_eq_error {fault : DeclarationError}
    (h : fieldTable part allowed members = .error fault) :
    ¬members.IsTable allowed ∧ fault.place? = some part.text := by
  constructor
  · intro htable
    rw [fieldTable_eq_ok.mpr ⟨htable, rfl⟩] at h
    cases h
  · unfold fieldTable at h
    split at h
    · split at h
      · cases h
        rfl
      · cases h
    · cases h
      rfl

end

/-! ## Patterns -/

section

variable {part : DeclarationPart} {members : Members} {v : Value} {f : Fragment}

theorem fragmentOfMembers_eq_ok :
    fragmentOfMembers part members = .ok f ↔ members.IsPattern ∧ Declares (.obj members) f := by
  constructor
  · intro h
    unfold fragmentOfMembers at h
    split at h
    · rename_i source hsource
      split at h
      · rename_i loop hloop
        obtain ⟨t, ht, rfl⟩ := map_eq_ok.mp h
        obtain ⟨htable, rfl⟩ := fieldTable_eq_ok.mp ht
        refine ⟨⟨⟨source, hsource⟩, ?_, htable⟩, .object hsource hloop fun _ _ => index?_eq_some⟩
        intro w hw
        rw [hw] at hloop
        exact ⟨loop, hloop⟩
      · cases h
    · cases h
  · rintro ⟨⟨-, -, htable⟩, hdeclares⟩
    cases hdeclares with
    | object hsource hloop hfields =>
      have hf : f.fields = index? members := by
        refine FieldTable.ext fun field => Option.ext fun n => ?_
        rw [hfields]
        exact index?_eq_some.symm
      unfold fragmentOfMembers
      rw [hsource]
      simp only [hloop]
      rw [fieldTable_eq_ok.mpr ⟨htable, hf⟩]
      rfl

theorem fragmentOfMembers_eq_error {fault : DeclarationError}
    (h : fragmentOfMembers part members = .error fault) :
    ¬members.IsPattern ∧ fault.place? = some part.text := by
  unfold fragmentOfMembers at h
  split at h
  · split at h
    · obtain ⟨htable, hplace⟩ := fieldTable_eq_error (map_eq_error.mp h)
      exact ⟨fun hp => htable hp.table, hplace⟩
    · rename_i hloop
      cases h
      refine ⟨fun hp => ?_, rfl⟩
      cases hfound : members.get? "loop" with
      | none => exact hloop false (by rw [hfound]; rfl)
      | some w =>
        obtain ⟨b, rfl⟩ := hp.loop w hfound
        exact hloop b (by rw [hfound]; rfl)
  · rename_i hsource
    cases h
    exact ⟨fun hp => hp.source.elim hsource, rfl⟩

theorem fragmentOfValue_eq_ok :
    fragmentOfValue part v = .ok f ↔ IsPattern v ∧ Declares v f := by
  cases v with
  | str source =>
    constructor
    · intro h
      cases h
      exact ⟨.text source, .text source⟩
    · rintro ⟨-, ⟨⟩⟩
      rfl
  | obj members =>
    refine fragmentOfMembers_eq_ok.trans ⟨fun h => ⟨.object h.1, h.2⟩, ?_⟩
    rintro ⟨⟨⟩, hdeclares⟩
    exact ⟨‹_›, hdeclares⟩
  | null | bool | int | float | arr => exact ⟨nofun, nofun⟩

theorem fragmentOfValue_eq_error {fault : DeclarationError}
    (h : fragmentOfValue part v = .error fault) : ¬IsPattern v ∧ fault.place? = some part.text := by
  cases v with
  | str source => cases h
  | obj members =>
    obtain ⟨hp, hplace⟩ := fragmentOfMembers_eq_error h
    refine ⟨?_, hplace⟩
    rintro ⟨⟩
    exact hp ‹_›
  | null | bool | int | float | arr =>
    cases h
    exact ⟨nofun, rfl⟩

end

/-! ## Chains -/

section

variable {name : MatcherLabel} {vs : List Value}

theorem fragmentsOfValues_eq_ok {position : Nat} {fs : List Fragment} :
    fragmentsOfValues name position vs = .ok fs ↔
      (∀ v ∈ vs, IsPattern v) ∧ List.Forall₂ Declares vs fs := by
  induction vs generalizing position fs with
  | nil =>
    constructor
    · intro h
      cases h
      exact ⟨nofun, .nil⟩
    · rintro ⟨-, ⟨⟩⟩
      rfl
  | cons v rest ih =>
    rw [fragmentsOfValues, bind_eq_ok]
    constructor
    · rintro ⟨f, hf, h⟩
      obtain ⟨fs', hfs, h⟩ := bind_eq_ok.mp h
      cases h
      obtain ⟨hv, hdeclares⟩ := fragmentOfValue_eq_ok.mp hf
      obtain ⟨hrest, hall⟩ := ih.mp hfs
      exact ⟨List.forall_mem_cons.mpr ⟨hv, hrest⟩, .cons hdeclares hall⟩
    · rintro ⟨hpatterns, hall⟩
      obtain ⟨hv, hrest⟩ := List.forall_mem_cons.mp hpatterns
      cases hall with
      | cons hdeclares hall =>
        exact ⟨_, fragmentOfValue_eq_ok.mpr ⟨hv, hdeclares⟩,
          bind_eq_ok.mpr ⟨_, ih.mpr ⟨hrest, hall⟩, rfl⟩⟩

/-- The first value that is no pattern is the one that the message names. -/
theorem fragmentsOfValues_eq_error {position : Nat} {fault : DeclarationError}
    (h : fragmentsOfValues name position vs = .error fault) :
    ∃ before v after, vs = before ++ v :: after ∧ (∀ w ∈ before, IsPattern w) ∧ ¬IsPattern v ∧
      fault.place? = some (DeclarationPart.chainPattern name (position + before.length)).text := by
  induction vs generalizing position with
  | nil => cases h
  | cons v rest ih =>
    rw [fragmentsOfValues, bind_eq_error] at h
    rcases h with h | ⟨f, hf, h⟩
    · obtain ⟨hv, hplace⟩ := fragmentOfValue_eq_error h
      exact ⟨[], v, rest, rfl, nofun, hv, hplace⟩
    · rcases bind_eq_error.mp h with h | ⟨fs, -, h⟩
      · obtain ⟨before, w, after, rfl, hbefore, hw, hplace⟩ := ih h
        refine ⟨v :: before, w, after, rfl, ?_, hw, ?_⟩
        · exact List.forall_mem_cons.mpr ⟨(fragmentOfValue_eq_ok.mp hf).1, hbefore⟩
        · rwa [List.length_cons, Nat.add_comm before.length, ← Nat.add_assoc]
      · cases h

end

end Matcher

end ProblemMatcher
