import ProblemMatcher.Proofs.Regex.Ends
import ProblemMatcher.Proofs.Regex.Tally

/-!
# Trees up to the numbers of their groups

A pattern that is read after others has its groups numbered from where they left off. Apart from
that it yields the tree that it yields by itself. The form of a tree leaves the numbers out. It
commutes with all that trees are built by, and the ends of a tree are those of its form.

1. `form_choice`: branches have the forms they are built from.
2. `isBlind_of_choice`: branches put together are blind only if all of them are.
3. `ends_form`, `isLocal_form`: what depends on the form of a tree alone.
-/

namespace ProblemMatcher.Regex.Node

/-- The tree with all its groups numbered alike. -/
def form : Node → Node
  | .empty => .empty
  | .one set => .one set
  | .place which => .place which
  | .seq first second => .seq first.form second.form
  | .never => .never
  | .either first rest => .either first.form rest.form
  | .group _ body => .group 0 body.form
  | .scope body => .scope body.form
  | .backref index rule => .backref index rule
  | .given index yes no => .given index yes.form no.form
  | .look side negated body => .look side negated body.form
  | .atomic body => .atomic body.form
  | .loop least most greed body => .loop least most greed body.form

/-! ## What trees are built by -/

theorem form_items (node : Node) : node.form.items = node.items.map form := by
  induction node with
  | seq first second _ ih =>
    show first.form :: second.form.items = (first :: second.items).map form
    rw [ih, List.map_cons]
  | _ => rfl

theorem form_sequence (nodes : List Node) : (sequence nodes).form = sequence (nodes.map form) := by
  induction nodes with
  | nil => rfl
  | cons node rest ih =>
    cases rest with
    | nil => rfl
    | cons next rest =>
      show Node.seq node.form (sequence (next :: rest)).form = _
      rw [ih]
      rfl

theorem isSame_form (a b : Node) : a.form.isSame b.form = a.isSame b := by
  cases a <;> cases b <;> rfl

theorem dropFirst?_form (node : Node) (nodes : List Node) :
    dropFirst? node.form (nodes.map form) = (dropFirst? node nodes).map (·.map form) := by
  cases nodes with
  | nil => rfl
  | cons first rest =>
    rw [List.map_cons, dropFirst?, dropFirst?, isSame_form]
    split_ifs <;> rfl

theorem mapM_dropFirst?_form (node : Node) (others : List (List Node)) :
    (others.map (·.map form)).mapM (dropFirst? node.form) =
      (others.mapM (dropFirst? node)).map (·.map (·.map form)) := by
  induction others with
  | nil => rfl
  | cons other rest ih =>
    rw [List.map_cons, List.mapM_cons, List.mapM_cons, ih, dropFirst?_form]
    cases dropFirst? node other with
    | none => rfl
    | some dropped => cases rest.mapM (dropFirst? node) <;> rfl

theorem splitShared_form (branch : List Node) (others : List (List Node)) :
    splitShared (branch.map form) (others.map (·.map form)) =
      ((splitShared branch others).1.map form, (splitShared branch others).2.map (·.map form)) := by
  induction branch generalizing others with
  | nil => rfl
  | cons node rest ih =>
    rw [List.map_cons, splitShared, splitShared, mapM_dropFirst?_form]
    cases others.mapM (dropFirst? node) with
    | none => rfl
    | some others =>
      show (node.form :: (splitShared (rest.map form) (others.map (·.map form))).1, _) = _
      rw [ih]
      rfl

theorem soleSet?_form (nodes : List Node) : soleSet? (nodes.map form) = soleSet? nodes := by
  cases nodes with
  | nil => rfl
  | cons node rest =>
    cases rest with
    | nil => cases node <;> rfl
    | cons next rest => cases node <;> rfl

theorem form_alternatives (branches : List (List Node)) :
    (alternatives branches).form = alternatives (branches.map (·.map form)) := by
  have hsets : (branches.map (·.map form)).mapM soleSet? = branches.mapM soleSet? := by
    induction branches with
    | nil => rfl
    | cons branch rest ih => rw [List.map_cons, List.mapM_cons, List.mapM_cons, ih, soleSet?_form]
  unfold alternatives
  rw [hsets]
  cases (branches.mapM soleSet?).bind CharSet.union? with
  | some set => rfl
  | none =>
    clear hsets
    induction branches with
    | nil => rfl
    | cons branch rest ih =>
      show Node.either (sequence branch).form _ = _
      rw [form_sequence]
      exact congrArg _ ih

theorem form_choice (branches : List (List Node)) :
    (choice branches).form = choice (branches.map (·.map form)) := by
  match branches with
  | [] => rfl
  | [branch] => exact form_sequence branch
  | branch :: other :: others =>
    have hshared := splitShared_form branch (other :: others)
    rw [List.map_cons] at hshared
    rw [List.map_cons, List.map_cons, choice, choice, hshared, form_sequence, List.map_append,
      List.map_singleton, form_alternatives]
    · nofun
    · nofun

/-! ## Blind trees -/

/-- The property holds of a sequence if it holds of all that is in it. -/
def IsConjunctive (p : Node → Bool) : Prop :=
  p .empty = true ∧ ∀ first second, p (.seq first second) = (p first && p second)

theorem isConjunctive_isBlind : IsConjunctive isBlind :=
  ⟨rfl, fun _ _ => rfl⟩

theorem isConjunctive_isLocal : IsConjunctive isLocal :=
  ⟨rfl, fun _ _ => rfl⟩

theorem IsConjunctive.items {p : Node → Bool} (hp : IsConjunctive p) (node : Node) :
    node.items.all p = p node := by
  induction node with
  | empty => exact hp.1.symm
  | seq first second _ ih =>
    show (p first && second.items.all p) = _
    rw [ih, hp.2]
  | _ => exact Bool.and_true _

theorem IsConjunctive.sequence {p : Node → Bool} (hp : IsConjunctive p) (nodes : List Node) :
    p (sequence nodes) = nodes.all p := by
  induction nodes with
  | nil => exact hp.1
  | cons node rest ih =>
    cases rest with
    | nil => exact (Bool.and_true _).symm
    | cons next rest =>
      show p (.seq node (Node.sequence (next :: rest))) = _
      rw [hp.2, ih]
      rfl

def blindTally : Tally Bool where
  of := isBlind
  nothing := true
  single := true
  both := and
  either := and
  nothing_both := Bool.true_and
  both_nothing := Bool.and_true
  both_assoc := Bool.and_assoc
  either_single := rfl
  of_empty := rfl
  of_one _ := rfl
  of_seq _ _ := rfl
  of_sole _ := Bool.and_true _
  of_either _ _ _ := rfl
  of_same _ _ h := by
    obtain ⟨_, rfl, rfl⟩ | ⟨_, rfl, rfl⟩ | ⟨_, _, _, rfl, rfl⟩ := isSame_cases h <;> rfl
  same_either _ b _ _ _ := by cases isBlind b <;> rfl

theorem total_blindTally (nodes : List Node) : blindTally.total nodes = nodes.all isBlind := by
  induction nodes with
  | nil => rfl
  | cons node rest ih =>
    rw [Tally.total_cons, ih]
    rfl

theorem choices_blindTally (branches : List (List Node)) :
    blindTally.choices branches = branches.all (·.all isBlind) := by
  induction branches with
  | nil => rfl
  | cons branch rest ih =>
    rw [List.all_cons, ← ih, ← total_blindTally]
    cases rest with
    | nil => exact (Bool.and_true _).symm
    | cons next rest => rfl

/-- Branches put together are blind only if all of them are. -/
theorem isBlind_of_choice {branches : List (List Node)} (h : (choice branches).isBlind = true) :
    ∀ branch ∈ branches, branch.all isBlind = true := by
  have hchoice := (blindTally.of_choice branches).trans (choices_blindTally branches)
  exact List.all_eq_true.mp (hchoice.symm.trans h)

/-! ## What depends on the form alone -/

theorem set?_form (node : Node) : node.form.set? = node.set? := by
  induction node with
  | scope body ih => exact ih
  | _ => rfl

theorem isRevisable_form (node : Node) : node.form.isRevisable = node.isRevisable := by
  induction node with
  | seq first second ih₁ ih₂ | either first second ih₁ ih₂ =>
    show (first.form.isRevisable && second.form.isRevisable) = _
    rw [ih₁, ih₂]
    rfl
  | group index body ih | scope body ih => exact ih
  | loop least most greed body ih =>
    show (greed != .possessive && body.form.isRevisable) = _
    rw [ih]
    rfl
  | _ => rfl

theorem isLocal_form (node : Node) : node.form.isLocal = node.isLocal := by
  induction node with
  | seq first second ih₁ ih₂ | either first second ih₁ ih₂ =>
    show (first.form.isLocal && second.form.isLocal) = _
    rw [ih₁, ih₂]
    rfl
  | group index body ih | scope body ih => exact ih
  | atomic body => exact isRevisable_form body
  | loop least most greed body ih =>
    cases greed with
    | greedy | reluctant => exact ih
    | possessive => exact congrArg Option.isSome (set?_form body)
  | _ => rfl

theorem ends_form (text : Array Char) (node : Node) : node.form.ends text = node.ends text := by
  induction node with
  | seq first second ih₁ ih₂ =>
    funext pos
    show (first.form.ends text pos).flatMap (second.form.ends text) = _
    rw [ih₁, ih₂]
    rfl
  | either first rest ih₁ ih₂ =>
    funext pos
    show first.form.ends text pos ++ rest.form.ends text pos = _
    rw [ih₁, ih₂]
    rfl
  | group index body ih | scope body ih => exact ih
  | atomic body ih =>
    funext pos
    show (body.form.ends text pos).take 1 = _
    rw [ih]
    rfl
  | loop least most greed body ih =>
    funext pos
    rw [form, ends, ends, ih, set?_form]
  | _ => rfl

/-! ## Sequences -/

theorem ends_sequence_cons (text : Array Char) (node : Node) (rest : List Node) (pos : Nat) :
    (sequence (node :: rest)).ends text pos =
      (node.ends text pos).flatMap ((sequence rest).ends text) := by
  cases rest with
  | nil => exact (List.flatMap_singleton' _).symm
  | cons next rest => rfl

/-- A sequence ends where its second part can end, begun where its first part can. -/
theorem ends_sequence_append (text : Array Char) (first second : List Node) (pos : Nat) :
    (sequence (first ++ second)).ends text pos =
      ((sequence first).ends text pos).flatMap ((sequence second).ends text) := by
  induction first generalizing pos with
  | nil => exact (List.flatMap_singleton _ _).symm
  | cons node rest ih =>
    rw [List.cons_append, ends_sequence_cons, ends_sequence_cons, List.flatMap_assoc]
    exact List.flatMap_congr fun middle _ => ih middle

end ProblemMatcher.Regex.Node
