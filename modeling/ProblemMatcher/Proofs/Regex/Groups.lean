import ProblemMatcher.Proofs.Regex.Tally

/-!
# The groups of a tree

Which groups a tree holds, which of them every way through it passes, and whether it looks around.

1. `groups`, `passes`, `looksAround`: what is told of a tree.
2. `groupsTally`: the groups of a tree are those of its parts.
3. `StaysBelow`: a bound on the numbers of the groups, and what it means for sequences and choices.
-/

namespace ProblemMatcher.Regex.Node

/-- The numbers of the groups in a tree, from left to right. -/
def groups : Node → List Nat
  | .empty | .one _ | .place _ | .never | .backref _ _ => []
  | .seq first second => first.groups ++ second.groups
  | .either first rest => first.groups ++ rest.groups
  | .group index body => index :: body.groups
  | .given _ yes no => yes.groups ++ no.groups
  | .scope body | .look _ _ body | .atomic body | .loop _ _ _ body => body.groups

/-- Every way through the tree passes the group: it does not stand in only some of the alternatives
or in a repetition that may be left out. What looks around is not on the way. -/
def passes (group : Nat) : Node → Bool
  | .empty | .one _ | .place _ | .backref _ _ | .look _ _ _ => false
  | .seq first second => first.passes group || second.passes group
  | .never => true
  | .either first rest => first.passes group && rest.passes group
  | .group index body => index == group || body.passes group
  | .given _ yes no => yes.passes group && no.passes group
  | .scope body | .atomic body => body.passes group
  | .loop least _ _ body => least != 0 && body.passes group

/-- There is a lookahead or a lookbehind in the tree. -/
def looksAround : Node → Bool
  | .empty | .one _ | .place _ | .never | .backref _ _ => false
  | .seq first second => first.looksAround || second.looksAround
  | .either first rest => first.looksAround || rest.looksAround
  | .given _ yes no => yes.looksAround || no.looksAround
  | .group _ body | .scope body | .atomic body | .loop _ _ _ body => body.looksAround
  | .look _ _ _ => true

theorem passes_of_set? {node : Node} {set : CharSet} (h : node.set? = some set) (group : Nat) :
    node.passes group = false := by
  induction node with
  | one => rfl
  | scope body ih => exact ih h
  | _ => cases h

theorem groups_of_isSame {a b : Node} (h : a.isSame b = true) : b.groups = [] := by
  obtain ⟨_, -, rfl⟩ | ⟨_, -, rfl⟩ | ⟨_, _, _, -, rfl⟩ := isSame_cases h <;> rfl

/-! ## The groups of the parts -/

def groupsTally : Tally (List Nat) where
  of := groups
  nothing := []
  single := []
  both := (· ++ ·)
  either := (· ++ ·)
  nothing_both _ := rfl
  both_nothing := List.append_nil
  both_assoc := List.append_assoc
  either_single := rfl
  of_empty := rfl
  of_one _ := rfl
  of_seq _ _ := rfl
  of_sole _ := List.append_nil _
  of_either _ _ _ := rfl
  of_same _ _ h := by
    obtain ⟨_, rfl, rfl⟩ | ⟨_, rfl, rfl⟩ | ⟨_, _, _, rfl, rfl⟩ := isSame_cases h <;> rfl
  same_either _ _ h _ _ := by rw [groups_of_isSame h]; rfl

theorem gathers_groupsTally : groupsTally.Gathers :=
  ⟨rfl, rfl, rfl⟩

/-! ## Bounds on the numbers of groups -/

/-- The groups in the tree are numbered from 1 on, and stay below the limit. -/
def StaysBelow (limit : Nat) (node : Node) : Prop :=
  ∀ g ∈ node.groups, 1 ≤ g ∧ g < limit

variable {limit : Nat}

theorem StaysBelow.mono {node : Node} (h : node.StaysBelow limit) {limit' : Nat}
    (hle : limit ≤ limit') : node.StaysBelow limit' :=
  fun g hg => ⟨(h g hg).1, Nat.lt_of_lt_of_le (h g hg).2 hle⟩

theorem staysBelow_of_groups_eq_nil {node : Node} (h : node.groups = []) :
    node.StaysBelow limit := by
  intro g hg
  rw [h] at hg
  cases hg

theorem staysBelow_sequence {nodes : List Node} :
    (sequence nodes).StaysBelow limit ↔ ∀ node ∈ nodes, node.StaysBelow limit := by
  have hgroups : (sequence nodes).groups = nodes.flatMap groups :=
    (groupsTally.of_sequence nodes).trans (gathers_groupsTally.total nodes)
  unfold StaysBelow
  rw [hgroups, List.forall_mem_flatMap]

theorem staysBelow_items {node : Node} :
    (∀ item ∈ node.items, item.StaysBelow limit) ↔ node.StaysBelow limit := by
  have hgroups : node.items.flatMap groups = node.groups :=
    (gathers_groupsTally.total node.items).symm.trans (groupsTally.total_items node)
  unfold StaysBelow
  rw [← hgroups, List.forall_mem_flatMap]

theorem staysBelow_choice {branches : List (List Node)} :
    (choice branches).StaysBelow limit ↔
      ∀ branch ∈ branches, ∀ node ∈ branch, node.StaysBelow limit := by
  have hgroups : (choice branches).groups = branches.flatMap (·.flatMap groups) :=
    (groupsTally.of_choice branches).trans (gathers_groupsTally.choices branches)
  unfold StaysBelow
  rw [hgroups, List.forall_mem_flatMap]
  exact forall₂_congr fun branch _ => List.forall_mem_flatMap

end ProblemMatcher.Regex.Node
