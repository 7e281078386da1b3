import ProblemMatcher.Proofs.Matcher.Grammar

/-!
# The order of members

The order in which a declaration gives its members never matters: not the order of the members of a
matcher, nor that of a pattern object, nor that of `defaults`. This holds for what is declared and
for what is wrong with it, even where several rules are broken at once, because members are looked
up by their names and faults are told in an order of their own.

1. `Members.Reorders.get?_eq`, `Members.Reorders.unknownNames_eq`: what is read of members.
2. `fieldTable_of_reorders`, `fragmentOfValue_of_reorders`: tables and patterns.
3. `ofValue_reorders`: matchers.
-/

namespace ProblemMatcher

open Json (Value)

namespace Members

/-- The same members, each name once, in another order. -/
structure Reorders (a b : Members) : Prop where
  distinct : a.names.Nodup
  perm : a.Perm b

variable {a b : Members}

theorem get?_eq_some_iff (h : a.names.Nodup) {name : String} {v : Value} :
    a.get? name = some v ↔ (name, v) ∈ a := by
  induction a with
  | nil => exact ⟨nofun, nofun⟩
  | cons m rest ih =>
    obtain ⟨other, w⟩ := m
    obtain ⟨hnew, hrest⟩ := List.nodup_cons.mp h
    rw [List.mem_cons, ← ih hrest]
    show Value.lookup name ((other, w) :: rest) = some v ↔ _
    rw [Value.lookup]
    split
    case isTrue hname =>
      subst hname
      have habsent : get? rest other ≠ some v := fun hfound =>
        hnew (List.mem_map.mpr ⟨_, (ih hrest).mp hfound, rfl⟩)
      simp [habsent, eq_comm]
    case isFalse hname =>
      have hother : (name, v) ≠ (other, w) := fun heq => hname (congrArg Prod.fst heq).symm
      simp [hother, get?]

/-- Names that are put in order are so in one way. -/
theorem mergeSort_names_eq {names others : List String} (h : names.Perm others) :
    names.mergeSort (fun x y => x ≤ y) = others.mergeSort (fun x y => x ≤ y) := by
  have hsorted (names : List String) :
      (names.mergeSort (fun x y => x ≤ y)).Pairwise fun x y => decide (x ≤ y) = true :=
    List.pairwise_mergeSort (fun _ _ _ => by simpa using String.le_trans)
      (fun x y => by simpa using String.le_total x y) names
  refine List.Perm.eq_of_pairwise (fun x y _ _ hxy hyx => ?_) (hsorted _) (hsorted _) ?_
  · exact String.le_antisymm (of_decide_eq_true hxy) (of_decide_eq_true hyx)
  · exact (List.mergeSort_perm _ _).trans (h.trans (List.mergeSort_perm _ _).symm)

namespace Reorders

theorem reverse (h : a.names.Nodup) : a.Reorders a.reverse :=
  ⟨h, (List.reverse_perm a).symm⟩

theorem distinct' (h : a.Reorders b) : b.names.Nodup :=
  (h.perm.map Prod.fst).nodup_iff.mp h.distinct

theorem get?_eq (h : a.Reorders b) (name : String) : a.get? name = b.get? name :=
  Option.ext fun v => by
    rw [get?_eq_some_iff h.distinct, get?_eq_some_iff h.distinct', h.perm.mem_iff]

/-- Names that are not allowed are told in the order of their code points. -/
theorem unknownNames_eq (h : a.Reorders b) (allowed : List String) :
    Matcher.unknownNames allowed a = Matcher.unknownNames allowed b :=
  mergeSort_names_eq ((h.perm.map Prod.fst).filter _)

end Reorders

end Members

namespace Matcher

variable {a b : Members} {v w : Value}

/-! ## Tables and patterns -/

theorem fieldTable_of_reorders (h : a.Reorders b) (part : DeclarationPart) (allowed : List String) :
    fieldTable part allowed a = fieldTable part allowed b := by
  have hindex : index? a = index? b := by
    funext f
    rw [index?, index?, h.get?_eq]
  have hwrong : wrongValue? a = wrongValue? b := by
    funext f
    rw [wrongValue?, wrongValue?, h.get?_eq]
  unfold fieldTable
  rw [h.unknownNames_eq, hindex, hwrong]

/-- The same value, but for the order of the members if it is an object. -/
inductive ReordersObject : Value → Value → Prop
  | same (v : Value) : ReordersObject v v
  | members {a b : Members} (h : a.Reorders b) : ReordersObject (.obj a) (.obj b)

/-- The same in the place of `pattern`, but for the order of the members in its pattern objects. -/
inductive ReordersShape : Value → Value → Prop
  | single {v w : Value} (h : ReordersObject v w) : ReordersShape v w
  | chain {vs ws : List Value} (h : List.Forall₂ ReordersObject vs ws) :
    ReordersShape (.arr vs) (.arr ws)

theorem fragmentOfMembers_of_reorders (h : a.Reorders b) (part : DeclarationPart) :
    fragmentOfMembers part a = fragmentOfMembers part b := by
  unfold fragmentOfMembers
  rw [h.get?_eq, h.get?_eq, fieldTable_of_reorders h]

theorem fragmentOfValue_of_reorders (h : ReordersObject v w) (part : DeclarationPart) :
    fragmentOfValue part v = fragmentOfValue part w := by
  cases h with
  | same => rfl
  | members h => exact fragmentOfMembers_of_reorders h part

theorem fragmentsOfValues_of_reorders {vs ws : List Value} (h : List.Forall₂ ReordersObject vs ws)
    (label : MatcherLabel) (position : Nat) :
    fragmentsOfValues label position vs = fragmentsOfValues label position ws := by
  induction h generalizing position with
  | nil => rfl
  | cons hv _ ih =>
    rw [fragmentsOfValues, fragmentsOfValues, fragmentOfValue_of_reorders hv, ih]

theorem shapeOfValue_of_reorders {x y : Option Value} (h : Option.Rel ReordersShape x y)
    (label : MatcherLabel) : shapeOfValue label x = shapeOfValue label y := by
  cases h with
  | none => rfl
  | some h =>
    cases h with
    | single h =>
      cases h with
      | same => rfl
      | members h => exact congrArg (Except.map _) (fragmentOfMembers_of_reorders h _)
    | chain h =>
      have hfragments := fragmentsOfValues_of_reorders h label 0
      cases h with
      | nil => rfl
      | cons => exact congrArg (Except.map _) hfragments

theorem isChain_of_reorders {x y : Option Value} (h : Option.Rel ReordersShape x y) :
    isChain x = isChain y := by
  cases h with
  | none => rfl
  | some h =>
    cases h with
    | single h => cases h <;> rfl
    | chain => rfl

/-! ## Matchers -/

theorem eq_of_rel {x y : Option Value} (h : Option.Rel Eq x y) : x = y := by
  cases h with
  | none => rfl
  | some h => exact congrArg some h

theorem getD_of_rel {R : Value → Value → Prop} {x y : Option Value} (h : Option.Rel R x y)
    {d : Value} (hd : R d d) : R (x.getD d) (y.getD d) := by
  cases h with
  | none => exact hd
  | some h => exact h

/-- What a member of a matcher may become: under `pattern` and `defaults`, objects may have their
members in another order, and under other names nothing changes. -/
def ReordersUnder (name : String) : Value → Value → Prop :=
  if name = "pattern" then ReordersShape
  else if name = "defaults" then ReordersObject
  else Eq

/-- The same matcher, but for the order of its members, of those of its pattern objects and of those
of its `defaults`. No two members of an object have the same name. -/
inductive ReordersMatcher : Value → Value → Prop
  | object {a b c : Members}
    (hinside : List.Forall₂ (fun m m' => m.1 = m'.1 ∧ ReordersUnder m.1 m.2 m'.2) a b)
    (horder : b.Reorders c) : ReordersMatcher (.obj a) (.obj c)

/-- What is found under a name. -/
theorem rel_get? (h : List.Forall₂ (fun m m' => m.1 = m'.1 ∧ ReordersUnder m.1 m.2 m'.2) a b)
    (name : String) : Option.Rel (ReordersUnder name) (a.get? name) (b.get? name) := by
  induction h with
  | nil => exact .none
  | @cons m m' rest rest' hm _ ih =>
    obtain ⟨key, v⟩ := m
    obtain ⟨key', w⟩ := m'
    obtain ⟨rfl, hunder⟩ := hm
    show Option.Rel _ (Value.lookup name ((key, v) :: rest)) (Value.lookup name ((key, w) :: rest'))
    rw [Value.lookup, Value.lookup]
    split
    case isTrue hname =>
      subst hname
      exact .some hunder
    case isFalse => exact ih

theorem ofMembers_of_inside
    (h : List.Forall₂ (fun m m' => m.1 = m'.1 ∧ ReordersUnder m.1 m.2 m'.2) a b) (index : Int) :
    ofMembers index a = ofMembers index b := by
  have hname : a.get? "name" = b.get? "name" :=
    eq_of_rel (by simpa [ReordersUnder] using rel_get? h "name")
  have hpattern : Option.Rel ReordersShape (a.get? "pattern") (b.get? "pattern") := by
    simpa [ReordersUnder] using rel_get? h "pattern"
  have hdefaults : ReordersObject ((a.get? "defaults").getD (.obj []))
      ((b.get? "defaults").getD (.obj [])) :=
    getD_of_rel (by simpa [ReordersUnder] using rel_get? h "defaults") (.same _)
  have hlabel : labelOf index a = labelOf index b := by rw [labelOf, labelOf, hname]
  have hnameOf : nameOf index a = nameOf index b := by rw [nameOf, nameOf, hname]
  simp only [ofMembers, hlabel, hnameOf, shapeOfValue_of_reorders hpattern,
    isChain_of_reorders hpattern]
  -- only the table of `defaults` is left, and its members may be in another order
  generalize (a.get? "defaults").getD (.obj []) = v at hdefaults ⊢
  generalize (b.get? "defaults").getD (.obj []) = w at hdefaults ⊢
  cases hdefaults with
  | same => rfl
  | members h => simp only [fieldTable_of_reorders h]

theorem ofMembers_of_reorders (h : a.Reorders b) (index : Int) :
    ofMembers index a = ofMembers index b := by
  unfold ofMembers labelOf nameOf
  rw [h.get?_eq "name", h.get?_eq "pattern", h.get?_eq "defaults"]

/-- **The order of members never matters.** A matcher with the members of itself, of its pattern
objects and of its `defaults` in any other order gives the same: the same name, patterns and fields
if it declares a matcher, and the same fault if it does not, whatever else is wrong with it. -/
theorem ofValue_reorders (h : ReordersMatcher v w) (index : Int) :
    ofValue index v = ofValue index w := by
  cases h with
  | object hinside horder =>
    exact (ofMembers_of_inside hinside index).trans (ofMembers_of_reorders horder index)

/-- The members of a matcher that breaks a rule in each pattern and in `defaults`, with two unknown
names in the first pattern. -/
def faultyMembers (order : Members → Members) : Members :=
  [("name", .str "cc"),
    ("pattern", .arr [
      .obj (order [("zone", .null), ("regexp", .str "a"), ("area", .null), ("file", .str "1")]),
      .obj (order [("loop", .int 1), ("line", .bool true)])]),
    ("defaults", .obj (order [("kind", .null), ("code", .str "2")]))]

def severalFaults (order : Members → Members) : Value :=
  .obj (order (faultyMembers order))

theorem severalFaults_reorders :
    ReordersMatcher (severalFaults id) (severalFaults List.reverse) := by
  refine .object (b := faultyMembers List.reverse) ?_ (.reverse (by decide))
  refine .cons ⟨rfl, rfl⟩ (.cons ⟨rfl, ?_⟩ (.cons ⟨rfl, ?_⟩ .nil))
  · exact .chain (.cons (.members (.reverse (by decide)))
      (.cons (.members (.reverse (by decide))) .nil))
  · exact .members (.reverse (by decide))

theorem ofValue_reorders_severalFaults :
    ReordersMatcher (severalFaults id) (severalFaults List.reverse) ∧
      ofValue 0 (severalFaults id) = ofValue 0 (severalFaults List.reverse) ∧
      ofValue 0 (severalFaults id) =
        .error (.unknownNames (.chainPattern (.named "cc") 0) ["area", "zone"]) :=
  ⟨severalFaults_reorders, ofValue_reorders severalFaults_reorders 0, by cbv⟩

end Matcher

end ProblemMatcher
