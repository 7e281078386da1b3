import ProblemMatcher.Proofs.Matcher.Grammar

/-!
# Declarations are accepted by their grammar

Reading a document succeeds on exactly the values of the grammar, and gives the matchers that they
declare. Otherwise the message begins with the place of the first part that breaks a rule. Each
function of the reader has two lemmas: when it succeeds and with what, and what it means that it
fails.

1. `shapeOfValue_eq_ok`, `shapeOfValue_eq_error`: what stands for `pattern`.
2. `ofMembers_eq_ok`, `ofMembers_eq_error`: one matcher.
3. `ofValuesFrom_eq_ok`, `ofValuesFrom_eq_error`: a list of them, by induction.
4. `ofDocument_accepts`: a document.
-/

namespace ProblemMatcher

open Json (Value)

namespace Matcher

/-! ## Shapes -/

section

variable {name : MatcherLabel} {v : Value} {v? : Option Value}

theorem isChain_eq_true : isChain v? = true ↔ ∃ items, v? = some (.arr items) := by
  cases v? with
  | none => simp [isChain]
  | some v => cases v <;> simp [isChain]

theorem isShape_arr {items : List Value} :
    IsShape (.arr items) ↔ items ≠ [] ∧ ∀ v ∈ items, IsPattern v := by
  constructor
  · intro h
    cases h with
    | single h => cases h
    | chain hne h => exact ⟨hne, h⟩
  · exact fun h => .chain h.1 h.2

theorem isShape_of_not_arr (hv : ∀ items, v ≠ .arr items) : IsShape v ↔ IsPattern v := by
  constructor
  · intro h
    cases h with
    | single h => exact h
    | chain hne h => exact absurd rfl (hv _)
  · exact .single

/-- Reading what stands for `pattern`. -/
theorem shapeOfValue_eq_ok {fragments : List Fragment} {base : FieldTable} :
    shapeOfValue name v? = .ok (fragments, base) ↔
      ∃ v, v? = some v ∧ IsShape v ∧ List.Forall₂ Declares (patternsIn v) fragments ∧
        base = if isChain v? then .empty else .single := by
  cases v? with
  | none => exact ⟨nofun, nofun⟩
  | some v =>
    simp only [Option.some.injEq, exists_eq_left']
    cases v with
    | arr items =>
      rw [isShape_arr]
      cases items with
      | nil => exact ⟨nofun, fun h => absurd rfl h.1.1⟩
      | cons v rest =>
        refine map_eq_ok.trans ⟨?_, ?_⟩
        · rintro ⟨fs, hfs, h⟩
          cases h
          obtain ⟨hall, hdeclares⟩ := fragmentsOfValues_eq_ok.mp hfs
          exact ⟨⟨List.cons_ne_nil _ _, hall⟩, hdeclares, rfl⟩
        · rintro ⟨⟨-, hall⟩, hdeclares, rfl⟩
          exact ⟨fragments, fragmentsOfValues_eq_ok.mpr ⟨hall, hdeclares⟩, rfl⟩
    | str source =>
      rw [isShape_of_not_arr (v := .str source) fun _ => nofun]
      constructor
      · intro h
        cases h
        exact ⟨.text source, .cons (.text source) .nil, rfl⟩
      · rintro ⟨-, hdeclares, rfl⟩
        cases hdeclares with
        | cons hdeclares hnil =>
          cases hdeclares
          cases hnil
          rfl
    | obj members =>
      rw [isShape_of_not_arr (v := .obj members) fun _ => nofun]
      refine map_eq_ok.trans ⟨?_, ?_⟩
      · rintro ⟨f, hf, h⟩
        cases h
        obtain ⟨hp, hdeclares⟩ := fragmentOfMembers_eq_ok.mp hf
        exact ⟨.object hp, .cons hdeclares .nil, rfl⟩
      · rintro ⟨hp, hdeclares, rfl⟩
        cases hp with
        | object hp =>
          cases hdeclares with
          | cons hdeclares hnil =>
            cases hnil
            exact ⟨_, fragmentOfMembers_eq_ok.mpr ⟨hp, hdeclares⟩, rfl⟩
    | null | bool | int | float =>
      refine ⟨nofun, ?_⟩
      rintro ⟨⟨⟨⟩⟩, -⟩

end

/-! ## Matchers -/

section

variable {members : Members} {index : Nat} {fault : DeclarationError}

theorem text_labelOf : (labelOf index members).text = members.label index := by
  unfold labelOf Members.label
  generalize members.get? "name" = name?
  split
  · simp [MatcherLabel.text, toString]
  · simp only [MatcherLabel.text, toString]
    rfl

/-- What stands for `pattern` and is no shape breaks a rule in itself or in a part of it. -/
theorem shapeOfValue_eq_error
    (h : shapeOfValue (labelOf index members) (members.get? "pattern") = .error fault) :
    (¬∃ v, members.get? "pattern" = some v ∧ IsShape v) ∧
      ∃ place, BreaksAt index (.obj members) place ∧ fault.place? = some place := by
  cases hp : members.get? "pattern" with
  | none =>
    rw [hp] at h
    cases h
    exact ⟨by simp, _, .shape (by simp [hp]), congrArg some text_labelOf⟩
  | some v =>
    rw [hp] at h
    simp only [Option.some.injEq, exists_eq_left']
    cases v with
    | arr items =>
      rw [isShape_arr]
      cases items with
      | nil =>
        cases h
        exact ⟨by simp, _, .shape (by simp [hp]), congrArg some text_labelOf⟩
      | cons w rest =>
        obtain ⟨before, v, after, heq, hbefore, hv, hplace⟩ :=
          fragmentsOfValues_eq_error (map_eq_error.mp h)
        rw [heq] at hp ⊢
        refine ⟨fun hshape => hv (hshape.2 v (by simp)), _, .chainPattern hp hbefore hv, ?_⟩
        rw [hplace, Nat.zero_add, DeclarationPart.text, text_labelOf]
        rfl
    | obj p =>
      obtain ⟨hpattern, hplace⟩ := fragmentOfMembers_eq_error (map_eq_error.mp h)
      rw [isShape_of_not_arr (v := .obj p) fun _ => nofun]
      refine ⟨?_, _, .pattern hp hpattern, ?_⟩
      · rintro ⟨⟩
        exact hpattern ‹_›
      · rw [hplace, DeclarationPart.text, text_labelOf]
        rfl
    | str source => cases h
    | null | bool | int | float =>
      cases h
      refine ⟨?_, _, .shape (by simp [hp]), congrArg some text_labelOf⟩
      rintro ⟨⟨⟩⟩

theorem isTable_nil {allowed : List String} : Members.IsTable [] allowed :=
  ⟨nofun, nofun⟩

theorem get?_getD_defaults {table : Members}
    (h : (members.get? "defaults").getD (.obj []) = .obj table) :
    (∀ v, members.get? "defaults" = some v → v = .obj table) ∧
      members.defaultIndex? = index? table := by
  unfold Members.defaultIndex?
  cases hd : members.get? "defaults" with
  | none =>
    rw [hd] at h
    cases h
    exact ⟨nofun, rfl⟩
  | some v =>
    rw [hd] at h
    obtain rfl : v = .obj table := h
    exact ⟨fun w hw => (Option.some.inj hw).symm, rfl⟩

theorem eq_nameOf_iff {name : String} :
    name = nameOf index members ↔ members.get? "name" = some (.str name) ∨
      (∀ other, members.get? "name" ≠ some (.str other)) ∧ name = "#" ++ toString index := by
  unfold nameOf
  split
  · rename_i found hfound
    simp [hfound, eq_comm]
  · rename_i hnone
    have hname : members.get? "name" ≠ some (.str name) := hnone name
    simp only [hname, false_or, and_iff_right hnone]
    rfl

theorem ofMembers_eq_ok {m : Matcher} :
    ofMembers index members = .ok m ↔ members.IsMatcher ∧ members.DeclaresMatcher index m := by
  unfold ofMembers
  rw [bind_eq_ok]
  constructor
  · rintro ⟨⟨fragments, base⟩, hread, h⟩
    obtain ⟨v, hv, hshape, hdeclares, rfl⟩ := shapeOfValue_eq_ok.mp hread
    dsimp only at h
    split at h
    · rename_i table hd
      obtain ⟨upper, hupper, h⟩ := bind_eq_ok.mp h
      cases h
      obtain ⟨htable, rfl⟩ := fieldTable_eq_ok.mp hupper
      obtain ⟨hdefaults, hindex⟩ := get?_getD_defaults hd
      refine ⟨⟨⟨v, hv, hshape⟩, fun w hw => ⟨table, hdefaults w hw, htable⟩⟩,
        ⟨v, hv, hdeclares⟩, isChain_eq_true, ?_, eq_nameOf_iff.mp rfl⟩
      intro f
      rw [hindex]
      rfl
    · cases h
  · rintro ⟨⟨⟨v, hv, hshape⟩, hdefaults⟩, hm⟩
    obtain ⟨table, hd, htable⟩ : ∃ table, (members.get? "defaults").getD (.obj []) = .obj table ∧
        Members.IsTable table fieldNames := by
      cases hfound : members.get? "defaults" with
      | none => exact ⟨[], rfl, isTable_nil⟩
      | some w =>
        obtain ⟨table, rfl, htable⟩ := hdefaults w hfound
        exact ⟨table, rfl, htable⟩
    obtain ⟨fragments, defaults, name, chained⟩ := m
    obtain rfl : chained = isChain (members.get? "pattern") :=
      Bool.eq_iff_iff.mpr (hm.chained.trans isChain_eq_true.symm)
    obtain rfl : name = nameOf index members := eq_nameOf_iff.mpr hm.name
    obtain ⟨v', hv', hdeclares⟩ := hm.fragments
    obtain rfl : v = v' := Option.some.inj (hv.symm.trans hv')
    refine ⟨_, shapeOfValue_eq_ok.mpr ⟨v, hv, hshape, hdeclares, rfl⟩, ?_⟩
    dsimp only
    rw [hd]
    refine bind_eq_ok.mpr ⟨_, fieldTable_eq_ok.mpr ⟨htable, rfl⟩, ?_⟩
    have hall : defaults = ((if isChain (members.get? "pattern") = true then FieldTable.empty
        else .single).overlay (index? table)).supplied := by
      refine FieldTable.ext fun f => ?_
      rw [hm.defaults f, (get?_getD_defaults hd).2]
      rfl
    rw [hall]
    rfl

theorem ofMembers_eq_error (h : ofMembers index members = .error fault) :
    ¬members.IsMatcher ∧
      ∃ place, BreaksAt index (.obj members) place ∧ fault.place? = some place := by
  unfold ofMembers at h
  rcases bind_eq_error.mp h with h | ⟨⟨fragments, base⟩, hread, h⟩
  · obtain ⟨hshape, hplace⟩ := shapeOfValue_eq_error h
    exact ⟨fun hm => hshape hm.pattern, hplace⟩
  · obtain ⟨v, hv, hshape, -⟩ := shapeOfValue_eq_ok.mp hread
    dsimp only at h
    split at h
    · rename_i table hd
      rcases bind_eq_error.mp h with h | ⟨upper, -, h⟩
      · obtain ⟨htable, hplace⟩ := fieldTable_eq_error h
        have hfound : members.get? "defaults" = some (.obj table) := by
          cases hfound : members.get? "defaults" with
          | none =>
            rw [hfound] at hd
            cases hd
            exact absurd isTable_nil htable
          | some w => rw [(get?_getD_defaults hd).1 w hfound]
        refine ⟨fun hm => ?_, _, .defaults ⟨v, hv, hshape⟩ hfound htable, ?_⟩
        · obtain ⟨table', heq, htable'⟩ := hm.defaults _ hfound
          cases heq
          exact htable htable'
        · rw [hplace, DeclarationPart.text, text_labelOf]
          rfl
      · cases h
    · rename_i hd
      cases h
      cases hfound : members.get? "defaults" with
      | none => exact absurd (by rw [hfound]; rfl) (hd [])
      | some w =>
        rw [hfound] at hd
        refine ⟨fun hm => ?_, _, .defaultsKind ⟨v, hv, hshape⟩ hfound hd, congrArg some text_labelOf⟩
        obtain ⟨table, rfl, -⟩ := hm.defaults w hfound
        exact hd table rfl

end

/-! ## Documents -/

section

variable {v : Value} {index : Nat} {fault : DeclarationError}

theorem not_isMatcher_of_not_obj (h : ∀ members, v ≠ .obj members) : ¬IsMatcher v := by
  rintro ⟨_⟩
  exact h _ rfl

theorem ofValue_eq_ok {m : Matcher} :
    ofValue index v = .ok m ↔ IsMatcher v ∧ DeclaresMatcher v index m := by
  cases v with
  | obj members =>
    refine ofMembers_eq_ok.trans ⟨fun h => ⟨.object h.1, .object h.2⟩, ?_⟩
    rintro ⟨⟨⟩, ⟨⟩⟩
    exact ⟨‹_›, ‹_›⟩
  | null | bool | int | float | str | arr =>
    constructor
    · intro h
      cases h
    · rintro ⟨hm, -⟩
      exact absurd hm (not_isMatcher_of_not_obj (by simp))

theorem ofValue_eq_error (h : ofValue index v = .error fault) :
    ¬IsMatcher v ∧ ∃ place, BreaksAt index v place ∧ fault.place? = some place := by
  cases v with
  | obj members =>
    obtain ⟨hm, hplace⟩ := ofMembers_eq_error h
    refine ⟨?_, hplace⟩
    rintro ⟨⟩
    exact hm ‹_›
  | null | bool | int | float | str | arr =>
    cases h
    refine ⟨not_isMatcher_of_not_obj (by simp), _, .whole (by simp), ?_⟩
    simp [DeclarationError.place?, MatcherLabel.text, label, toString]
    rfl

theorem ofValuesFrom_eq_ok {vs : List Value} {ms : List Matcher} :
    ofValuesFrom index vs = .ok ms ↔
      (∀ v ∈ vs, IsMatcher v) ∧
        List.Forall₂ (fun v m => DeclaresMatcher v.1 v.2 m) (vs.zipIdx index) ms := by
  induction vs generalizing index ms with
  | nil =>
    constructor
    · intro h
      cases h
      exact ⟨nofun, .nil⟩
    · rintro ⟨-, ⟨⟩⟩
      rfl
  | cons v rest ih =>
    rw [ofValuesFrom, bind_eq_ok, List.zipIdx_cons]
    constructor
    · rintro ⟨m, hm, h⟩
      obtain ⟨ms', hms, h⟩ := bind_eq_ok.mp h
      cases h
      obtain ⟨hv, hdeclares⟩ := ofValue_eq_ok.mp hm
      obtain ⟨hrest, hall⟩ := ih.mp hms
      exact ⟨List.forall_mem_cons.mpr ⟨hv, hrest⟩, .cons hdeclares hall⟩
    · rintro ⟨hmatchers, hall⟩
      obtain ⟨hv, hrest⟩ := List.forall_mem_cons.mp hmatchers
      cases hall with
      | cons hdeclares hall =>
        exact ⟨_, ofValue_eq_ok.mpr ⟨hv, hdeclares⟩,
          bind_eq_ok.mpr ⟨_, ih.mpr ⟨hrest, hall⟩, rfl⟩⟩

/-- The first value that declares no matcher is the one that the message names. -/
theorem ofValuesFrom_eq_error {vs : List Value} (h : ofValuesFrom index vs = .error fault) :
    ∃ before v after place, vs = before ++ v :: after ∧ (∀ w ∈ before, IsMatcher w) ∧
      ¬IsMatcher v ∧ BreaksAt (index + before.length) v place ∧ fault.place? = some place := by
  induction vs generalizing index with
  | nil => cases h
  | cons v rest ih =>
    rw [ofValuesFrom] at h
    rcases bind_eq_error.mp h with h | ⟨m, hm, h⟩
    · obtain ⟨hv, place, hbreaks, hplace⟩ := ofValue_eq_error h
      exact ⟨[], v, rest, place, rfl, nofun, hv, hbreaks, hplace⟩
    · rcases bind_eq_error.mp h with h | ⟨ms, -, h⟩
      · obtain ⟨before, w, after, place, rfl, hbefore, hw, hbreaks, hplace⟩ :=
          @ih (index + 1) h
        refine ⟨v :: before, w, after, place, rfl, ?_, hw, ?_, hplace⟩
        · exact List.forall_mem_cons.mpr ⟨(ofValue_eq_ok.mp hm).1, hbefore⟩
        · rwa [List.length_cons, Nat.add_comm before.length, ← Nat.add_assoc]
      · cases h

theorem declarationsOf_eq_arr {doc : Value} {items : List Value} :
    declarationsOf doc = .ok (.arr items) ↔ HoldsMatchers doc items := by
  unfold HoldsMatchers
  cases doc with
  | obj members =>
    constructor
    · intro h
      rw [declarationsOf] at h
      split at h
      · rename_i contributes hcontributes
        exact .inr ⟨members, contributes, rfl, hcontributes, Except.ok.inj h⟩
      · cases h
    · rintro (h | ⟨members', contributes, h, hcontributes, hmatchers⟩)
      · cases h
      · cases h
        rw [declarationsOf, hcontributes]
        exact congrArg Except.ok hmatchers
  | null | bool | int | float | str | arr =>
    constructor
    · exact fun h => .inl (Except.ok.inj h)
    · rintro (h | ⟨_, _, h, -⟩)
      · exact congrArg Except.ok h
      · cases h

theorem HoldsMatchers.unique {doc : Value} {items items' : List Value}
    (h : HoldsMatchers doc items) (h' : HoldsMatchers doc items') : items = items' := by
  have heq := (declarationsOf_eq_arr.mpr h).symm.trans (declarationsOf_eq_arr.mpr h')
  cases heq
  rfl

theorem ofDocument_eq_ok {doc : Value} {ms : List Matcher} :
    ofDocument doc = .ok ms ↔ ∃ items, HoldsMatchers doc items ∧ ofValuesFrom 0 items = .ok ms := by
  unfold ofDocument
  rw [bind_eq_ok]
  constructor
  · rintro ⟨held, hheld, h⟩
    split at h
    · rename_i items
      exact ⟨items, declarationsOf_eq_arr.mp hheld, h⟩
    · cases h
  · rintro ⟨items, hitems, h⟩
    exact ⟨.arr items, declarationsOf_eq_arr.mpr hitems, h⟩

theorem ofDocument_eq_error {doc : Value} (h : ofDocument doc = .error fault) :
    (¬∃ items, HoldsMatchers doc items) ∧
        (fault = .contributesNotObject ∨ fault = .matchersNotList) ∨
      ∃ items, HoldsMatchers doc items ∧ ofValuesFrom 0 items = .error fault := by
  unfold ofDocument at h
  rcases bind_eq_error.mp h with h | ⟨held, hheld, h⟩
  · refine .inl ⟨?_, .inl ?_⟩
    · rintro ⟨items, hitems⟩
      rw [declarationsOf_eq_arr.mpr hitems] at h
      cases h
    · unfold declarationsOf at h
      split at h
      · split at h
        · cases h
        · cases h
          rfl
      · cases h
  · split at h
    · rename_i items
      exact .inr ⟨items, declarationsOf_eq_arr.mp hheld, h⟩
    · rename_i hlist
      cases h
      refine .inl ⟨?_, .inr rfl⟩
      rintro ⟨items, hitems⟩
      rw [declarationsOf_eq_arr.mpr hitems] at hheld
      exact hlist items (Except.ok.inj hheld).symm

theorem label_of_breaksAt {place : String} (h : BreaksAt index v place) :
    (label index v).toList <+: place.toList := by
  cases h with
  | whole | shape | defaultsKind => exact List.prefix_rfl
  | pattern | chainPattern | defaults => simp [label]

end

/-- **Declarations are accepted by their grammar.** A document has matchers if and only if it holds
a list of declarations each of which follows the rules. Each matcher is then what the declaration at
its place in the list declares. Otherwise the message says what is wrong with the document as a
whole, or begins with the name or number of the first declaration that breaks a rule, and then
names the first part of it that does. -/
theorem ofDocument_accepts (doc : Value) :
    ((∃ ms, ofDocument doc = .ok ms) ↔
      ∃ items, HoldsMatchers doc items ∧ ∀ v ∈ items, IsMatcher v) ∧
    (∀ ms, ofDocument doc = .ok ms → ∃ items, HoldsMatchers doc items ∧
      List.Forall₂ (fun v m => DeclaresMatcher v.1 v.2 m) items.zipIdx ms) ∧
    ∀ fault, ofDocument doc = .error fault →
      (¬∃ items, HoldsMatchers doc items) ∧
          (fault.message = "'contributes' must be an object" ∨
            fault.message = "'problemMatchers' must be a list") ∨
        ∃ before v after place, HoldsMatchers doc (before ++ v :: after) ∧
          (∀ w ∈ before, IsMatcher w) ∧ ¬IsMatcher v ∧ BreaksAt before.length v place ∧
          (label before.length v).toList <+: fault.message.toList ∧ fault.IsAbout place := by
  have hfails : ∀ fault, ofDocument doc = .error fault →
      (¬∃ items, HoldsMatchers doc items) ∧
          (fault = .contributesNotObject ∨ fault = .matchersNotList) ∨
        ∃ before v after place, HoldsMatchers doc (before ++ v :: after) ∧
          (∀ w ∈ before, IsMatcher w) ∧ ¬IsMatcher v ∧ BreaksAt before.length v place ∧
          fault.place? = some place := by
    intro fault h
    rcases ofDocument_eq_error h with h | ⟨items, hitems, h⟩
    · exact .inl h
    · obtain ⟨before, v, after, place, rfl, hbefore, hv, hbreaks, hplace⟩ :=
        @ofValuesFrom_eq_error 0 fault items h
      rw [Nat.zero_add] at hbreaks
      exact .inr ⟨before, v, after, place, hitems, hbefore, hv, hbreaks, hplace⟩
  refine ⟨⟨?_, ?_⟩, ?_, ?_⟩
  · rintro ⟨ms, h⟩
    obtain ⟨items, hitems, h⟩ := ofDocument_eq_ok.mp h
    exact ⟨items, hitems, ((@ofValuesFrom_eq_ok 0 items _).mp h).1⟩
  · rintro ⟨items, hitems, hall⟩
    cases h : ofDocument doc with
    | ok ms => exact ⟨ms, rfl⟩
    | error fault =>
      rcases hfails fault h with ⟨hnone, -⟩ | ⟨before, v, after, place, hheld, -, hv, -⟩
      · exact absurd ⟨items, hitems⟩ hnone
      · rw [hitems.unique hheld] at hall
        exact absurd (hall v (by simp)) hv
  · intro ms h
    obtain ⟨items, hitems, h⟩ := ofDocument_eq_ok.mp h
    exact ⟨items, hitems, ((@ofValuesFrom_eq_ok 0 items _).mp h).2⟩
  · intro fault h
    rcases hfails fault h with ⟨hnone, hfault⟩ | ⟨before, v, after, place, hheld, hbefore, hv,
      hbreaks, hplace⟩
    · exact .inl ⟨hnone, hfault.imp (congrArg DeclarationError.message)
        (congrArg DeclarationError.message)⟩
    · have habout := DeclarationError.isAbout_of_place? hplace
      refine .inr ⟨before, v, after, place, hheld, hbefore, hv, hbreaks, ?_, habout⟩
      have hlabel := label_of_breaksAt hbreaks
      refine hlabel.trans (List.IsPrefix.trans ?_ habout)
      simp

/-- A matcher of one pattern, and a chain whose second pattern gives a field no index. -/
def halfDeclared : Value :=
  .obj [("contributes", .obj [("problemMatchers", .arr [
    .obj [("pattern", .str "(a)")],
    .obj [("name", .str "two"), ("pattern", .arr [
      .str "b", .obj [("regexp", .str "c"), ("line", .bool true)]])]])])]

theorem ofDocument_accepts_halfDeclared :
    ∃ fault, ofDocument halfDeclared = .error fault ∧
      fault.message = "matcher 'two', pattern #1: 'line' must be an integer group index, got True" ∧
      ((¬∃ items, HoldsMatchers halfDeclared items) ∧
          (fault.message = "'contributes' must be an object" ∨
            fault.message = "'problemMatchers' must be a list") ∨
        ∃ before v after place, HoldsMatchers halfDeclared (before ++ v :: after) ∧
          (∀ w ∈ before, IsMatcher w) ∧ ¬IsMatcher v ∧ BreaksAt before.length v place ∧
          (label before.length v).toList <+: fault.message.toList ∧ fault.IsAbout place) := by
  have hread : ofDocument halfDeclared =
      .error (.wrongIndex (.chainPattern (.named "two") 1) .line "True") := by cbv
  exact ⟨_, hread, by decide +kernel, (ofDocument_accepts halfDeclared).2.2 _ hread⟩

end Matcher

end ProblemMatcher
