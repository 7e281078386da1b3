import ProblemMatcher.Proofs.Regex.Tally

/-!
# Widths of sequences and alternatives

A sequence takes up what its trees take up together, and alternatives take up between the least and
the greatest that one of them does.

1. `Node.widthTally`: the width of a tree is told by its parts.
2. `Node.width_sequence`, `Node.total_flatMap_items`: a sequence is as wide as its trees.
3. `Node.width_choice`: the width of a choice, from those of its branches.
-/

namespace ProblemMatcher.Regex

namespace Width

theorem zero_add (w : Width) : zero.add w = w := by
  rcases w with ⟨least, most⟩
  cases most <;> simp [zero, add]

theorem add_zero (w : Width) : w.add zero = w := by
  rcases w with ⟨least, most⟩
  cases most <;> simp [zero, add]

theorem add_assoc (a b c : Width) : (a.add b).add c = a.add (b.add c) := by
  rcases a with ⟨_, _ | _⟩ <;> rcases b with ⟨_, _ | _⟩ <;> rcases c with ⟨_, _ | _⟩ <;>
    simp [add, Nat.add_assoc]

/-- What comes before alternatives comes before each of them. -/
theorem add_join (a b c : Width) : a.add (b.join c) = (a.add b).join (a.add c) := by
  rcases a with ⟨_, _ | _⟩ <;> rcases b with ⟨_, _ | _⟩ <;> rcases c with ⟨_, _ | _⟩ <;>
    simp [add, join, Nat.add_min_add_left, Nat.add_max_add_left]

/-- The width of alternatives; none at all take up nothing. -/
def joinAll : List Width → Width
  | [] => zero
  | [w] => w
  | w :: rest => w.join (joinAll rest)

end Width

namespace Node

variable (groups : Nat → Width)

/-- The width of trees one after another. -/
def total (nodes : List Node) : Width :=
  (nodes.map (·.width groups)).foldr Width.add .zero

theorem total_cons (node : Node) (rest : List Node) :
    total groups (node :: rest) = (node.width groups).add (total groups rest) := rfl

def widthTally : Tally Width where
  of := width groups
  nothing := .zero
  single := .single
  both := Width.add
  either := Width.join
  nothing_both := Width.zero_add
  both_nothing := Width.add_zero
  both_assoc := Width.add_assoc
  either_single := rfl
  of_empty := rfl
  of_one _ := rfl
  of_seq _ _ := rfl
  of_sole _ := rfl
  of_either _ _ hrest := if_neg hrest
  of_same _ _ h := by
    obtain ⟨_, rfl, rfl⟩ | ⟨_, rfl, rfl⟩ | ⟨_, _, _, rfl, rfl⟩ := isSame_cases h <;> rfl
  same_either _ _ _ _ _ := Width.add_join _ _ _

theorem joinAll_widthTally (widths : List Width) :
    (widthTally groups).joinAll widths = Width.joinAll widths := by
  induction widths with
  | nil => rfl
  | cons w rest ih =>
    cases rest with
    | nil => rfl
    | cons v rest => exact congrArg w.join ih

theorem width_sequence (nodes : List Node) :
    (sequence nodes).width groups = total groups nodes :=
  (widthTally groups).of_sequence nodes

theorem total_flatMap_items (nodes : List Node) :
    total groups (nodes.flatMap items) = total groups nodes :=
  (widthTally groups).total_flatMap_items nodes

/-- The width of a choice is that of its branches as alternatives. -/
theorem width_choice (branches : List (List Node)) :
    (choice branches).width groups = Width.joinAll (branches.map (total groups)) :=
  ((widthTally groups).of_choice branches).trans (joinAll_widthTally groups _)

end Node

end ProblemMatcher.Regex
