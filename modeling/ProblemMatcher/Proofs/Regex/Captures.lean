import ProblemMatcher.Proofs.Regex.Groups
import ProblemMatcher.Proofs.Regex.Parallel

/-!
# What the groups capture

A capture group is known by its number, and what stands in it is a tree. While a pattern is read,
the groups of a frame are those of the items read into it; repeating the last item, ending a branch
and turning modes on leave them as they are.

1. `captures`: the groups of a tree with what stands in them; `captures_choice`, `captures_items`.
2. `Frame.captures_push`, …: the groups of a frame under what is done to it.
3. `Parsed.KeepsGroups`: two patterns with the same groups.
-/

namespace ProblemMatcher.Regex

namespace Node

/-- The groups of a tree with what stands in them, from left to right. -/
def captures : Node → List (Nat × Node)
  | .empty | .one _ | .place _ | .never | .backref _ _ => []
  | .seq first second => first.captures ++ second.captures
  | .either first rest => first.captures ++ rest.captures
  | .group index body => (index, body) :: body.captures
  | .given _ yes no => yes.captures ++ no.captures
  | .scope body | .look _ _ body | .atomic body | .loop _ _ _ body => body.captures

theorem map_fst_captures (node : Node) : node.captures.map Prod.fst = node.groups := by
  induction node with
  | empty | one | place | never | backref => rfl
  | seq first second ihFirst ihSecond =>
    rw [captures, groups, List.map_append, ihFirst, ihSecond]
  | either first rest ihFirst ihRest => rw [captures, groups, List.map_append, ihFirst, ihRest]
  | given index yes no ihYes ihNo => rw [captures, groups, List.map_append, ihYes, ihNo]
  | group index body ih => rw [captures, groups, List.map_cons, ih]
  | scope body ih | look side negated body ih | atomic body ih | loop least most greed body ih =>
    exact ih

theorem captures_of_isSame {a b : Node} (h : a.isSame b = true) : b.captures = [] :=
  List.map_eq_nil_iff.mp ((map_fst_captures b).trans (groups_of_isSame h))

def capturesTally : Tally (List (Nat × Node)) where
  of := captures
  nothing := []
  single := []
  both := (· ++ ·)
  either := (· ++ ·)
  nothing_both _ := rfl
  both_nothing := List.append_nil
  both_assoc := List.append_assoc
  either_single := rfl
  of_empty := rfl
  of_one _ := rfl
  of_seq _ _ := rfl
  of_sole _ := List.append_nil _
  of_either _ _ _ := rfl
  of_same _ _ h := by
    obtain ⟨_, rfl, rfl⟩ | ⟨_, rfl, rfl⟩ | ⟨_, _, _, rfl, rfl⟩ := isSame_cases h <;> rfl
  same_either _ _ h _ _ := by rw [captures_of_isSame h]; rfl

theorem gathers_capturesTally : capturesTally.Gathers :=
  ⟨rfl, rfl, rfl⟩

theorem captures_items (node : Node) : node.items.flatMap captures = node.captures :=
  (gathers_capturesTally.total node.items).symm.trans (capturesTally.total_items node)

theorem captures_choice (branches : List (List Node)) :
    (choice branches).captures = branches.flatMap (·.flatMap captures) :=
  (capturesTally.of_choice branches).trans (gathers_capturesTally.choices branches)

end Node

open Node

theorem IsLeaf.captures_eq_nil {leaf : Frame → Node} (h : IsLeaf leaf) (f : Frame) :
    (leaf f).captures = [] := by
  cases h <;> rfl

/-! ## Frames -/

namespace Frame

variable (f : Frame)

theorem captures_branch : f.branch.flatMap captures = f.items.reverse.flatMap captures := by
  rw [branch, List.flatMap_assoc]
  exact List.flatMap_congr fun node _ => captures_items node

theorem captures_body : f.body.captures =
    f.branches.reverse.flatMap (·.flatMap captures) ++ f.items.reverse.flatMap captures := by
  rw [body, captures_choice, List.reverse_cons, List.flatMap_append, List.flatMap_singleton,
    captures_branch]

theorem captures_push (node : Node) (last : LastItem) :
    (f.push node last).body.captures = f.body.captures ++ node.captures := by
  rw [captures_body, captures_body, List.append_assoc]
  show _ ++ (node :: f.items).reverse.flatMap captures = _
  rw [List.reverse_cons, List.flatMap_append, List.flatMap_singleton]
  rfl

theorem captures_nextBranch (h : ∀ index, f.kind ≠ .given index none) :
    f.nextBranch.body.captures = f.body.captures := by
  unfold nextBranch
  split
  · -- the first branch of a condition is kept in the kind of the frame
    rename_i index hkind
    exact absurd hkind (h index)
  · rw [captures_body, captures_body]
    show (f.branch :: f.branches).reverse.flatMap (·.flatMap captures) ++ [] = _
    rw [List.append_nil, List.reverse_cons, List.flatMap_append, List.flatMap_singleton,
      captures_branch]

/-- What changes the last item keeps what stands in its groups. -/
theorem captures_mapLast {node : Node} {items : List Node} (hitems : f.items = node :: items)
    (node' : Node) (hcaptures : node'.captures = node.captures) (last : LastItem) :
    Node.captures (Frame.body { f with items := node' :: items, last }) = f.body.captures := by
  rw [captures_body, captures_body, hitems, List.reverse_cons, List.reverse_cons,
    List.flatMap_append, List.flatMap_append, List.flatMap_singleton, List.flatMap_singleton,
    hcaptures]

theorem captures_repeated (least : Nat) (most : Option Nat) :
    (f.repeated least most).body.captures = f.body.captures := by
  unfold repeated
  split
  · rename_i node items hitems
    exact f.captures_mapLast hitems (.loop least most .greedy node) rfl .repetition
  · rfl

theorem captures_withGreed (greed : Greed) :
    (f.withGreed greed).body.captures = f.body.captures := by
  unfold withGreed
  split
  · rename_i least most old body items hitems
    exact f.captures_mapLast hitems (.loop least most greed body) rfl f.last
  · rfl

end Frame

/-- The second pattern has the groups of the first one, under the same modes. -/
structure Parsed.KeepsGroups (parsed parsed' : Parsed) : Prop where
  groupCount : parsed'.groupCount = parsed.groupCount
  captures : parsed'.root.captures = parsed.root.captures
  flags : parsed'.flags = parsed.flags

namespace Parsed.KeepsGroups

theorem refl (parsed : Parsed) : parsed.KeepsGroups parsed :=
  ⟨rfl, rfl, rfl⟩

theorem trans {parsed middle parsed' : Parsed} (h : parsed.KeepsGroups middle)
    (h' : middle.KeepsGroups parsed') : parsed.KeepsGroups parsed' :=
  ⟨h'.groupCount.trans h.groupCount, h'.captures.trans h.captures, h'.flags.trans h.flags⟩

end Parsed.KeepsGroups

end ProblemMatcher.Regex
