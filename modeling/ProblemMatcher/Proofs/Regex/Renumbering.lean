import ProblemMatcher.Proofs.Regex.Groups
import ProblemMatcher.Proofs.Regex.Parallel

/-!
# Groups of a pattern inside a longer one

A pattern that is read inside a longer one, in a group of its own, has the groups that it has by
itself, only so many numbers on. Every way through it passes the same of them, and it looks around
if it does so by itself. The trees are not otherwise the same, since a set may depend on modes that
the longer pattern has turned on, and with it what the branches of a choice have in common.

1. `Outline`: what is compared of two trees; `outlineTally`: it is told by the parts of a tree.
2. `Renumbers`: frames that hold trees of the same outline.
3. `renumbers_correspondence`: both readings keep it.
-/

namespace ProblemMatcher.Regex

/-! ## Outlines -/

/-- The groups of a tree, which of them every way passes, and whether it looks around. -/
@[ext]
structure Outline where
  groups : List Nat
  passes : Nat → Bool
  looksAround : Bool

namespace Outline

def nothing : Outline :=
  ⟨[], fun _ => false, false⟩

def both (a b : Outline) : Outline :=
  ⟨a.groups ++ b.groups, fun g => a.passes g || b.passes g, a.looksAround || b.looksAround⟩

def either (a b : Outline) : Outline :=
  ⟨a.groups ++ b.groups, fun g => a.passes g && b.passes g, a.looksAround || b.looksAround⟩

end Outline

/-- The outline of a tree, with its own groups moved up and those asked for moved down. -/
def Node.outline (up down : Nat) (node : Node) : Outline where
  groups := node.groups.map (· + up)
  passes g := node.passes (g + down)
  looksAround := node.looksAround

def outlineTally (up down : Nat) : Tally Outline where
  of := Node.outline up down
  nothing := .nothing
  single := .nothing
  both := .both
  either := .either
  nothing_both _ := rfl
  both_nothing x := by
    ext1
    · exact List.append_nil _
    · exact funext fun g => Bool.or_false _
    · exact Bool.or_false _
  both_assoc x y z := by
    ext1
    · exact List.append_assoc _ _ _
    · exact funext fun g => Bool.or_assoc _ _ _
    · exact Bool.or_assoc _ _ _
  either_single := rfl
  of_empty := rfl
  of_one _ := rfl
  of_seq first second := by
    ext1
    · exact List.map_append
    · rfl
    · rfl
  of_sole first := by
    ext1
    · exact congrArg (List.map _) (List.append_nil _)
    · exact funext fun g => Bool.and_true _
    · exact Bool.or_false _
  of_either first rest _ := by
    ext1
    · exact List.map_append
    · rfl
    · rfl
  of_same _ _ h := by
    obtain ⟨_, rfl, rfl⟩ | ⟨_, rfl, rfl⟩ | ⟨_, _, _, rfl, rfl⟩ := Node.isSame_cases h <;> rfl
  same_either _ _ h _ _ := by
    obtain ⟨_, -, rfl⟩ | ⟨_, -, rfl⟩ | ⟨_, _, _, -, rfl⟩ := Node.isSame_cases h <;> rfl

/-- The second tree has the groups of the first one, `ahead` numbers on. -/
structure Node.Renumbers (ahead : Nat) (node node' : Node) : Prop where
  groups : node'.groups = node.groups.map (· + ahead)
  passes : ∀ g, node'.passes (g + ahead) = node.passes g
  looksAround : node'.looksAround = node.looksAround

namespace Node

variable {ahead : Nat} {node node' : Node}

theorem renumbers_iff :
    node.Renumbers ahead node' ↔ node'.outline 0 ahead = node.outline ahead 0 := by
  constructor
  · intro h
    ext1
    · exact (List.map_id _).trans h.groups
    · exact funext h.passes
    · exact h.looksAround
  · intro h
    refine ⟨?_, fun g => congrFun (congrArg Outline.passes h) g, congrArg Outline.looksAround h⟩
    exact (List.map_id _).symm.trans (congrArg Outline.groups h)

theorem Renumbers.group (h : node.Renumbers ahead node') (index : Nat) :
    Renumbers ahead (.group index node) (.group (index + ahead) node') where
  groups := congrArg ((index + ahead) :: ·) h.groups
  passes g := by
    rw [Node.passes, Node.passes, h.passes]
    congr 1
    simp
  looksAround := h.looksAround

theorem Renumbers.loop (h : node.Renumbers ahead node') (least : Nat) (most : Option Nat)
    (greed : Greed) :
    Renumbers ahead (.loop least most greed node) (.loop least most greed node') where
  groups := h.groups
  passes g := by rw [Node.passes, Node.passes, h.passes]
  looksAround := h.looksAround

theorem Renumbers.withGreed (h : node.Renumbers ahead node') (greed : Greed) :
    (node.withGreed greed).Renumbers ahead (node'.withGreed greed) := by
  have hsame : ∀ node : Node, (node.withGreed greed).groups = node.groups ∧
      (∀ g, (node.withGreed greed).passes g = node.passes g) ∧
      (node.withGreed greed).looksAround = node.looksAround := by
    intro node
    cases node <;> exact ⟨rfl, fun _ => rfl, rfl⟩
  obtain ⟨hgroups, hpasses, hlooks⟩ := hsame node
  obtain ⟨hgroups', hpasses', hlooks'⟩ := hsame node'
  refine ⟨?_, fun g => ?_, ?_⟩
  · rw [hgroups', hgroups, h.groups]
  · rw [hpasses', hpasses, h.passes]
  · rw [hlooks', hlooks, h.looksAround]

theorem Renumbers.scope (h : node.Renumbers ahead node') :
    Renumbers ahead (.scope node) (.scope node') :=
  ⟨h.groups, h.passes, h.looksAround⟩

theorem Renumbers.atomic (h : node.Renumbers ahead node') :
    Renumbers ahead (.atomic node) (.atomic node') :=
  ⟨h.groups, h.passes, h.looksAround⟩

theorem Renumbers.look (h : node.Renumbers ahead node') (side side' : Side) (negated : Bool) :
    Renumbers ahead (.look side negated node) (.look side' negated node') :=
  ⟨h.groups, fun _ => rfl, rfl⟩

theorem Renumbers.given {yes yes' no no' : Node} (hyes : yes.Renumbers ahead yes')
    (hno : no.Renumbers ahead no') (index index' : Nat) :
    Renumbers ahead (.given index yes no) (.given index' yes' no') where
  groups := by rw [Node.groups, Node.groups, hyes.groups, hno.groups, List.map_append]
  passes g := by rw [Node.passes, Node.passes, hyes.passes, hno.passes]
  looksAround := by
    rw [Node.looksAround, Node.looksAround, hyes.looksAround, hno.looksAround]

theorem renumbers_of_bare {a b : Node} (ha : a.outline ahead 0 = .nothing)
    (hb : b.outline 0 ahead = .nothing) : a.Renumbers ahead b :=
  renumbers_iff.mpr (hb.trans ha.symm)

end Node

/-- The second branch has the outline of the first one, `ahead` groups on. -/
def BranchRenumbers (ahead : Nat) (branch branch' : List Node) : Prop :=
  (outlineTally 0 ahead).total branch' = (outlineTally ahead 0).total branch

/-! ## Frames -/

/-- The kinds of two frames, the first of which may be that of a whole pattern. -/
inductive FrameKind.Answers (ahead : Nat) : FrameKind → FrameKind → Prop
  | whole : Answers ahead .whole (.capture ahead)
  | opened {kind kind' : FrameKind} : kind.Opens ahead kind' → Answers ahead kind kind'
  | scope : Answers ahead .scope .scope
  | kept (index index' : Nat) {yes yes' : Node} : yes.Renumbers ahead yes' →
    Answers ahead (.given index (some yes)) (.given index' (some yes'))

/-- What answers the frame of a whole pattern is a group of its own. -/
theorem FrameKind.Answers.eq_capture {ahead : Nat} {kind kind' : FrameKind}
    (h : kind.Answers ahead kind') (hwhole : kind = .whole) : kind' = .capture ahead := by
  subst hwhole
  cases h with
  | whole => rfl
  | opened hopens => cases hopens

/-- The second frame holds what the first one holds, `ahead` groups on. -/
structure Renumbers (ahead : Nat) (g f : Frame) : Prop where
  verbose : f.flags.verbose = g.flags.verbose
  kind : g.kind.Answers ahead f.kind
  branches : f.branches.map (outlineTally 0 ahead).total =
    g.branches.map (outlineTally ahead 0).total
  items : f.items.map (Node.outline 0 ahead) = g.items.map (Node.outline ahead 0)

namespace Renumbers

variable {ahead : Nat} {g f : Frame}

theorem fresh {kind kind' : FrameKind} {flags flags' : Flags}
    (hverbose : flags'.verbose = flags.verbose) (hkind : kind.Answers ahead kind') :
    Renumbers ahead { kind, flags } { kind := kind', flags := flags' } :=
  ⟨hverbose, hkind, rfl, rfl⟩

theorem push (h : Renumbers ahead g f) {node node' : Node} (hnode : node.Renumbers ahead node')
    (last : LastItem) : Renumbers ahead (g.push node last) (f.push node' last) where
  verbose := h.verbose
  kind := h.kind
  branches := h.branches
  items := by
    show node'.outline 0 ahead :: f.items.map _ = node.outline ahead 0 :: g.items.map _
    rw [Node.renumbers_iff.mp hnode, h.items]

theorem branch (h : Renumbers ahead g f) : BranchRenumbers ahead g.branch f.branch := by
  unfold BranchRenumbers Frame.branch
  rw [Tally.total_flatMap_items, Tally.total_flatMap_items, Tally.total, Tally.total,
    List.map_reverse, List.map_reverse]
  show (f.items.map (Node.outline 0 ahead)).reverse.foldr Outline.both Outline.nothing = _
  rw [h.items]
  rfl

theorem sequence (h : Renumbers ahead g f) :
    (Node.sequence g.branch).Renumbers ahead (Node.sequence f.branch) :=
  Node.renumbers_iff.mpr <| ((outlineTally 0 ahead).of_sequence f.branch).trans
    (h.branch.trans ((outlineTally ahead 0).of_sequence g.branch).symm)

theorem branch_branches (h : Renumbers ahead g f) :
    (f.branch :: f.branches).map (outlineTally 0 ahead).total =
      (g.branch :: g.branches).map (outlineTally ahead 0).total := by
  rw [List.map_cons, List.map_cons, h.branches]
  exact congrArg (· :: _) h.branch

theorem body (h : Renumbers ahead g f) : g.body.Renumbers ahead f.body := by
  refine Node.renumbers_iff.mpr ?_
  calc f.body.outline 0 ahead
      = (outlineTally 0 ahead).choices (f.branch :: f.branches).reverse :=
        (outlineTally 0 ahead).of_choice _
    _ = (outlineTally ahead 0).choices (g.branch :: g.branches).reverse := by
        rw [Tally.choices, Tally.choices, List.map_reverse, List.map_reverse, h.branch_branches]
        exact (outlineTally ahead 0).joinAll_congr (u := outlineTally 0 ahead) rfl rfl _
    _ = g.body.outline ahead 0 := ((outlineTally ahead 0).of_choice _).symm

/-- An item without groups that only the second frame ends with makes no difference. -/
theorem body_push (h : Renumbers ahead g f) (node : Node) (hnode : node.outline 0 ahead = .nothing)
    (last : LastItem) : g.body.Renumbers ahead (f.push node last).body := by
  have hpush : (g.push .empty).body = g.body := by
    rw [Frame.body, Frame.body, Frame.branch_push]
    exact congrArg (fun branch => Node.choice (branch :: g.branches).reverse) (List.append_nil _)
  rw [← hpush]
  exact (h.push (Node.renumbers_of_bare (a := .empty) rfl hnode) .item).body

theorem closed (h : Renumbers ahead g f) (hwhole : g.kind ≠ .whole) (back back' : Nat) :
    (g.closed back).Renumbers ahead (f.closed back') := by
  have hbody := h.body
  have hsequence := h.sequence
  have hkind := h.kind
  unfold Frame.closed
  generalize g.kind = kind at hkind hwhole ⊢
  generalize f.kind = kind' at hkind ⊢
  cases hkind with
  | whole => exact absurd rfl hwhole
  | opened hopens =>
    cases hopens with
    | capture index => exact hbody.group index
    | plain => exact hbody
    | atomic => exact hbody.atomic
    | look behind negated outermost outermost' =>
      cases behind with
      | false => exact hbody.look _ _ negated
      | true => exact hbody.look _ _ negated
    | given index index' => exact hsequence.given (Node.renumbers_of_bare rfl rfl) index index'
  | scope => exact hbody.scope
  | kept index index' hyes => exact hyes.given hsequence index index'

theorem nextBranch (h : Renumbers ahead g f) : Renumbers ahead g.nextBranch f.nextBranch := by
  have hsequence := h.sequence
  have hbranches := h.branch_branches
  have hverbose : f.nextBranch.flags.verbose = g.nextBranch.flags.verbose := by
    rw [Frame.nextBranch_flags, Frame.nextBranch_flags, h.verbose]
  have hkind := h.kind
  unfold Frame.nextBranch at hverbose ⊢
  generalize g.kind = kind at hkind hverbose ⊢
  generalize f.kind = kind' at hkind hverbose ⊢
  cases hkind with
  | whole => exact ⟨hverbose, .whole, hbranches, rfl⟩
  | opened hopens =>
    have hanswers := FrameKind.Answers.opened hopens
    cases hopens with
    | given index index' => exact fresh hverbose (.kept index index' hsequence)
    | _ => exact ⟨hverbose, hanswers, hbranches, rfl⟩
  | scope => exact ⟨hverbose, .scope, hbranches, rfl⟩
  | kept index index' hyes => exact ⟨hverbose, .kept index index' hyes, hbranches, rfl⟩

/-- What changes the last item in both frames in the same way. -/
theorem mapLast (h : Renumbers ahead g f) (change : Node → Node)
    (hchange : ∀ node node' : Node, node.Renumbers ahead node' →
      (change node).Renumbers ahead (change node'))
    {node node' : Node} {items items' : List Node} (hg : g.items = node :: items)
    (hf : f.items = node' :: items') (last last' : LastItem) :
    Renumbers ahead { g with items := change node :: items, last }
      { f with items := change node' :: items', last := last' } where
  verbose := h.verbose
  kind := h.kind
  branches := h.branches
  items := by
    have hitems := h.items
    rw [hg, hf, List.map_cons, List.map_cons, List.cons.injEq] at hitems
    show (change node').outline 0 ahead :: items'.map _ = (change node).outline ahead 0 :: _
    rw [Node.renumbers_iff.mp (hchange node node' (Node.renumbers_iff.mpr hitems.1)), hitems.2]

theorem repeated (h : Renumbers ahead g f) (least : Nat) (most : Option Nat) (hg : g.items ≠ [])
    (hf : f.items ≠ []) : Renumbers ahead (g.repeated least most) (f.repeated least most) := by
  obtain ⟨node, items, hg⟩ := List.exists_cons_of_ne_nil hg
  obtain ⟨node', items', hf⟩ := List.exists_cons_of_ne_nil hf
  rw [Frame.repeated, Frame.repeated, hg, hf]
  exact h.mapLast (.loop least most .greedy) (fun _ _ h => h.loop least most .greedy) hg hf _ _

theorem withGreed (h : Renumbers ahead g f) (greed : Greed) (hg : g.items ≠ [])
    (hf : f.items ≠ []) : Renumbers ahead (g.withGreed greed) (f.withGreed greed) := by
  obtain ⟨node, items, hg⟩ := List.exists_cons_of_ne_nil hg
  obtain ⟨node', items', hf⟩ := List.exists_cons_of_ne_nil hf
  rw [Frame.withGreed_cons hg, Frame.withGreed_cons hf]
  exact h.mapLast (.withGreed greed) (fun _ _ h => h.withGreed greed) hg hf _ _

end Renumbers

theorem renumbers_correspondence (ahead : Nat) : Correspondence ahead (Renumbers ahead) where
  verbose h := h.verbose
  leaf last h hleaf := by
    refine h.push (Node.renumbers_of_bare ?_ ?_) last
    · cases hleaf <;> rfl
    · cases hleaf <;> rfl
  backref _ _ h := h.push (Node.renumbers_of_bare rfl rfl) .item
  opened h hopens := .fresh h.verbose (.opened hopens)
  scope on off h := by
    refine .fresh ?_ .scope
    rw [Flags.verbose_within, Flags.verbose_within, h.verbose]
  nextBranch h := h.nextBranch
  closed back back' h hparent hwhole := hparent.push (h.closed hwhole back back') .item
  repeated least most h hg hf := h.repeated least most hg hf
  withGreed greed h hg hf := h.withGreed greed hg hf
  turnOn on h := by
    refine ⟨?_, h.kind, h.branches, h.items⟩
    show (Flags.union _ on).verbose = (Flags.union _ on).verbose
    rw [Flags.union, Flags.union, h.verbose]

end ProblemMatcher.Regex
