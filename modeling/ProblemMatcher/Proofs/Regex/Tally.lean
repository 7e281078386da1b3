import ProblemMatcher.Proofs.Attempt
import ProblemMatcher.Regex.Node

/-!
# What is told of a tree by its parts

How wide a tree is, or which groups it holds, is told by its parts: of a sequence by its trees, and
of a choice by its branches. What all branches begin with is put in front of them when a choice is
built, and alternatives of one character each become a set. Neither makes a difference, as long as
trees that are the same tell the same, and it is no matter whether they stand in front of
alternatives or in each of them.

1. `Tally`: what it takes to tell something of a tree by its parts.
2. `Tally.of_sequence`, `Tally.total_flatMap_items`: a sequence is told by its trees.
3. `Tally.of_choice`: a choice is told by its branches.
4. `Tally.Gathers`: what is told of a tree is a list, to which each part adds its own.
-/

namespace ProblemMatcher.Regex

namespace Node

/-- Only characters, places and references back are ever the same. -/
theorem isSame_cases {a b : Node} (h : a.isSame b = true) :
    (∃ set, a = .one set ∧ b = .one set) ∨ (∃ which, a = .place which ∧ b = .place which) ∨
      ∃ index rule rule', a = .backref index rule ∧ b = .backref index rule' := by
  unfold isSame at h
  split at h
  · rw [beq_iff_eq] at h
    exact Or.inl ⟨_, rfl, congrArg Node.one h.symm⟩
  · rw [beq_iff_eq] at h
    exact Or.inr (Or.inl ⟨_, rfl, congrArg Node.place h.symm⟩)
  · rw [beq_iff_eq] at h
    subst h
    exact Or.inr (Or.inr ⟨_, _, _, rfl, rfl⟩)
  · cases h

theorem isSame_of_dropFirst? {node : Node} {nodes rest : List Node}
    (h : dropFirst? node nodes = some rest) : ∃ first, nodes = first :: rest ∧
      first.isSame node = true := by
  cases nodes with
  | nil => cases h
  | cons first tail =>
    rw [dropFirst?] at h
    split_ifs at h with hsame
    cases h
    exact ⟨first, rfl, hsame⟩

/-- What branches share begins another branch as well. -/
theorem exists_isSame_of_mem_splitShared {branch : List Node} {others : List (List Node)}
    (h : others ≠ []) :
    ∀ node ∈ (splitShared branch others).1, ∃ a : Node, a.isSame node = true := by
  induction branch generalizing others with
  | nil => nofun
  | cons first rest ih =>
    rw [splitShared]
    split
    · rename_i rests hrests
      have hdropped := mapM_eq_some.mp hrests
      have hne : rests ≠ [] := by
        rintro rfl
        exact h (List.forall₂_nil_right_iff.mp hdropped)
      obtain ⟨other, others, rfl⟩ := List.exists_cons_of_ne_nil h
      obtain ⟨dropped, -, hdrop⟩ := exists_of_forall₂ hdropped other List.mem_cons_self
      obtain ⟨a, -, hsame⟩ := isSame_of_dropFirst? hdrop
      exact List.forall_mem_cons.mpr ⟨⟨a, hsame⟩, ih hne⟩
    · nofun

theorem splitShared_ne_nil (branch : List Node) (others : List (List Node)) :
    (splitShared branch others).2 ≠ [] := by
  induction branch generalizing others with
  | nil => exact List.cons_ne_nil _ _
  | cons node rest ih =>
    unfold splitShared
    split
    · exact ih _
    · exact List.cons_ne_nil _ _

end Node

/-- What is told of trees that stand one after another, and of trees that are alternatives, by what
is told of each. -/
structure Tally (M : Type) where
  of : Node → M
  nothing : M
  /-- What is told of any one character. -/
  single : M
  both : M → M → M
  either : M → M → M
  nothing_both : ∀ x, both nothing x = x
  both_nothing : ∀ x, both x nothing = x
  both_assoc : ∀ x y z, both (both x y) z = both x (both y z)
  either_single : either single single = single
  of_empty : of .empty = nothing
  of_one : ∀ set, of (.one set) = single
  of_seq : ∀ first second, of (.seq first second) = both (of first) (of second)
  of_sole : ∀ first, of (.either first .never) = of first
  of_either : ∀ first rest, rest ≠ .never →
    of (.either first rest) = either (of first) (of rest)
  of_same : ∀ a b : Node, a.isSame b = true → of a = of b
  /-- What branches may share can stand in front of them all or in each of them. -/
  same_either : ∀ a b : Node, a.isSame b = true → ∀ x y,
    both (of b) (either x y) = either (both (of b) x) (both (of b) y)

namespace Tally

open Node

variable {M : Type} (t : Tally M)

/-! ## Sequences -/

/-- What is told of trees one after another. -/
def total (nodes : List Node) : M :=
  (nodes.map t.of).foldr t.both t.nothing

@[simp] theorem total_nil : t.total [] = t.nothing := rfl

@[simp] theorem total_cons (node : Node) (rest : List Node) :
    t.total (node :: rest) = t.both (t.of node) (t.total rest) := rfl

theorem total_singleton (node : Node) : t.total [node] = t.of node :=
  t.both_nothing _

theorem total_append (first second : List Node) :
    t.total (first ++ second) = t.both (t.total first) (t.total second) := by
  induction first with
  | nil => rw [List.nil_append, total_nil, t.nothing_both]
  | cons node rest ih => rw [List.cons_append, total_cons, total_cons, ih, t.both_assoc]

theorem of_sequence (nodes : List Node) : t.of (sequence nodes) = t.total nodes := by
  induction nodes with
  | nil => exact t.of_empty
  | cons node rest ih =>
    cases rest with
    | nil => exact (t.total_singleton node).symm
    | cons next rest =>
      show t.of (.seq node (sequence (next :: rest))) = _
      rw [t.of_seq, ih, total_cons _ node]

theorem total_items (node : Node) : t.total node.items = t.of node := by
  induction node with
  | empty => exact t.of_empty.symm
  | seq first second _ ih =>
    show t.both (t.of first) (t.total second.items) = _
    rw [ih, t.of_seq]
  | _ => exact t.total_singleton _

theorem total_flatMap_items (nodes : List Node) :
    t.total (nodes.flatMap items) = t.total nodes := by
  induction nodes with
  | nil => rfl
  | cons node rest ih => rw [List.flatMap_cons, total_append, total_items, ih, total_cons]

/-! ## Alternatives -/

/-- What is told of alternatives; of none at all there is nothing to tell. -/
def joinAll : List M → M
  | [] => t.nothing
  | [x] => x
  | x :: rest => t.either x (joinAll rest)

theorem joinAll_cons {x : M} {rest : List M} (h : rest ≠ []) :
    t.joinAll (x :: rest) = t.either x (t.joinAll rest) := by
  cases rest with
  | nil => contradiction
  | cons y rest => rfl

theorem joinAll_congr {u : Tally M} (hnothing : u.nothing = t.nothing)
    (heither : u.either = t.either) (xs : List M) : u.joinAll xs = t.joinAll xs := by
  induction xs with
  | nil => exact hnothing
  | cons x rest ih =>
    cases rest with
    | nil => rfl
    | cons y rest =>
      rw [u.joinAll_cons (List.cons_ne_nil y rest), t.joinAll_cons (List.cons_ne_nil y rest), ih,
        heither]

/-- What is told of branches that are alternatives. -/
def choices (branches : List (List Node)) : M :=
  t.joinAll (branches.map t.total)

theorem of_foldr_either {branches : List (List Node)} (h : branches ≠ []) :
    t.of (branches.foldr (fun branch rest => .either (sequence branch) rest) .never) =
      t.choices branches := by
  induction branches with
  | nil => contradiction
  | cons branch rest ih =>
    rw [List.foldr_cons, choices, List.map_cons]
    cases rest with
    | nil =>
      rw [List.foldr_nil, t.of_sole, of_sequence]
      rfl
    | cons next rest =>
      have hne : next :: rest ≠ [] := List.cons_ne_nil _ _
      rw [t.of_either _ _ (by rw [List.foldr_cons]; nofun), of_sequence, ih hne,
        t.joinAll_cons (List.map_eq_nil_iff.not.mpr hne)]
      rfl

theorem total_of_soleSet? {branch : List Node} {set : CharSet} (h : soleSet? branch = some set) :
    t.total branch = t.single := by
  unfold soleSet? at h
  split at h
  · rw [total_singleton, t.of_one]
  · cases h

theorem choices_of_mapM_soleSet? {branches : List (List Node)} {sets : List CharSet}
    (h : branches.mapM soleSet? = some sets) (hne : branches ≠ []) :
    t.choices branches = t.single := by
  have hsets := mapM_eq_some.mp h
  clear h
  -- along the branches, each of which is one character
  induction hsets with
  | nil => contradiction
  | @cons branch _ rest _ hset hrest ih =>
    rw [choices, List.map_cons, t.total_of_soleSet? hset]
    by_cases hnil : rest = []
    · subst hnil
      rfl
    · rw [t.joinAll_cons (List.map_eq_nil_iff.not.mpr hnil)]
      exact (congrArg _ (ih hnil)).trans t.either_single

theorem of_alternatives {branches : List (List Node)} (h : branches ≠ []) :
    t.of (alternatives branches) = t.choices branches := by
  unfold alternatives
  split
  · rename_i set hset
    obtain ⟨sets, hsets, -⟩ := Option.bind_eq_some_iff.mp hset
    rw [t.of_one, t.choices_of_mapM_soleSet? hsets h]
  · exact t.of_foldr_either h

/-! ## What branches begin with -/

/-- It is no matter whether this comes before alternatives or before each of them. -/
def Leads (x : M) : Prop :=
  ∀ y z, t.both x (t.either y z) = t.either (t.both x y) (t.both x z)

theorem joinAll_map_both {x : M} (hx : t.Leads x) {branches : List M} (h : branches ≠ []) :
    t.joinAll (branches.map (t.both x)) = t.both x (t.joinAll branches) := by
  induction branches with
  | nil => contradiction
  | cons y rest ih =>
    by_cases hrest : rest = []
    · subst hrest
      rfl
    · rw [List.map_cons, t.joinAll_cons (List.map_eq_nil_iff.not.mpr hrest), t.joinAll_cons hrest,
        ih hrest, hx]

theorem leads_total {nodes : List Node} (h : ∀ node ∈ nodes, t.Leads (t.of node)) :
    t.Leads (t.total nodes) := by
  induction nodes with
  | nil => exact fun y z => by rw [total_nil, t.nothing_both, t.nothing_both, t.nothing_both]
  | cons node rest ih =>
    obtain ⟨hnode, hrest⟩ := List.forall_mem_cons.mp h
    intro y z
    rw [total_cons, t.both_assoc, t.both_assoc, t.both_assoc, ih hrest, hnode]

theorem total_of_dropFirst? {node : Node} {nodes rest : List Node}
    (h : dropFirst? node nodes = some rest) :
    t.total nodes = t.both (t.of node) (t.total rest) := by
  obtain ⟨first, rfl, hsame⟩ := isSame_of_dropFirst? h
  rw [total_cons, t.of_same first node hsame]

theorem totals_of_mapM_dropFirst? {node : Node} {others rests : List (List Node)}
    (h : others.mapM (dropFirst? node) = some rests) :
    others.map t.total = (rests.map t.total).map (t.both (t.of node)) := by
  have hrests := mapM_eq_some.mp h
  clear h
  induction hrests with
  | nil => rfl
  | cons hdrop _ ih =>
    rw [List.map_cons, List.map_cons, List.map_cons, t.total_of_dropFirst? hdrop, ih]

/-- What the branches share is told in front of them as it is in each of them. -/
theorem total_splitShared (branch : List Node) (others : List (List Node)) :
    (branch :: others).map t.total =
      ((splitShared branch others).2.map t.total).map
        (t.both (t.total (splitShared branch others).1)) := by
  induction branch generalizing others with
  | nil =>
    simp only [splitShared, total_nil, List.map_map]
    exact List.map_congr_left fun nodes _ => (t.nothing_both _).symm
  | cons node rest ih =>
    unfold splitShared
    split
    · rename_i rests hrests
      have hbranches : ((node :: rest) :: others).map t.total =
          ((rest :: rests).map t.total).map (t.both (t.of node)) := by
        rw [List.map_cons, List.map_cons, List.map_cons, t.totals_of_mapM_dropFirst? hrests,
          total_cons]
      -- the first tree of each branch has gone to what is shared
      rw [hbranches, ih rests, List.map_map]
      refine List.map_congr_left fun x _ => ?_
      exact (t.both_assoc _ _ _).symm
    · rw [List.map_map]
      exact List.map_congr_left fun nodes _ => (t.nothing_both _).symm

/-- **What is told of a choice** is what is told of its branches as alternatives. -/
theorem of_choice (branches : List (List Node)) : t.of (choice branches) = t.choices branches := by
  match branches with
  | [] => exact t.of_empty
  | [branch] => exact t.of_sequence branch
  | branch :: other :: others =>
    have hrests := splitShared_ne_nil branch (other :: others)
    have hleads : t.Leads (t.total (splitShared branch (other :: others)).1) := by
      refine t.leads_total fun node hnode => ?_
      obtain ⟨a, hsame⟩ :=
        exists_isSame_of_mem_splitShared (List.cons_ne_nil other others) node hnode
      exact t.same_either a node hsame
    have hchoice : choice (branch :: other :: others) =
        sequence ((splitShared branch (other :: others)).1 ++
          [alternatives (splitShared branch (other :: others)).2]) := rfl
    rw [choices, t.total_splitShared branch (other :: others),
      t.joinAll_map_both hleads (List.map_eq_nil_iff.not.mpr hrests), hchoice, of_sequence,
      total_append, total_singleton, t.of_alternatives hrests, choices]

/-! ## Lists -/

/-- What is told is a list, put together from left to right. -/
structure Gathers {α : Type} (t : Tally (List α)) : Prop where
  nothing : t.nothing = []
  both : t.both = (· ++ ·)
  either : t.either = (· ++ ·)

namespace Gathers

variable {α : Type} {t : Tally (List α)}

theorem total (h : t.Gathers) (nodes : List Node) : t.total nodes = nodes.flatMap t.of := by
  induction nodes with
  | nil => exact h.nothing
  | cons node rest ih => rw [total_cons, ih, h.both, List.flatMap_cons]

theorem choices (h : t.Gathers) (branches : List (List Node)) :
    t.choices branches = branches.flatMap (·.flatMap t.of) := by
  induction branches with
  | nil => exact h.nothing
  | cons branch rest ih =>
    rw [List.flatMap_cons, ← ih, ← h.total]
    cases rest with
    | nil =>
      show t.total branch = t.total branch ++ t.nothing
      rw [h.nothing, List.append_nil]
    | cons next rest =>
      show t.either (t.total branch) (t.choices (next :: rest)) = _
      rw [h.either]

end Gathers

end Tally

end ProblemMatcher.Regex
