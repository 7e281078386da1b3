import ProblemMatcher.Proofs.Regex.Mirror
import ProblemMatcher.Proofs.Regex.Simulation

/-!
# The same tokens under other modes

A pattern is read twice from its first token on, under two choices of modes. Once the modes in force
skip blanks alike, whatever the first reader does, the second one does too: nothing else about the
modes decides whether a token can be read. The readers agree in all but their modes and the trees in
their frames, and the trees are related by any relation that the ways of building trees keep.

1. `Congruence`: such a relation of modes and of trees.
2. `Frame.Like`, `Reader.Twin`: frames and readers that agree up to it.
3. `Congruence.simulation`, `Twin.act`: what an action does to one reader it does to the other.
-/

namespace ProblemMatcher.Regex

open ProblemMatcher.Text

/-- Ways to put a tree inside another. -/
inductive IsWrapper : (Node → Node) → Prop
  | group (index : Nat) : IsWrapper (.group index)
  | scope : IsWrapper .scope
  | atomic : IsWrapper .atomic
  | look (side : Side) (negated : Bool) : IsWrapper (.look side negated)
  | loop (least : Nat) (most : Option Nat) : IsWrapper (.loop least most .greedy)
  | greed (greed : Greed) : IsWrapper (.withGreed greed)

/-- Relations of modes, of trees and of branches that every way of building trees keeps. -/
structure Congruence (P : Flags → Flags → Prop) (N : Node → Node → Prop)
    (B : List Node → List Node → Prop) : Prop where
  verbose {a b : Flags} : P a b → b.verbose = a.verbose
  union {a b : Flags} (on : Flags) : P a b → P (a.union on) (b.union on)
  within {a b : Flags} (on off : Flags) : P a b → P (a.within on off) (b.within on off)
  leaf {g f : Frame} {leaf : Frame → Node} : P g.flags f.flags → IsLeaf leaf → N (leaf g) (leaf f)
  backref {g f : Frame} (index : Nat) :
    P g.flags f.flags → N (.backref index g.rule) (.backref index f.rule)
  width {node node' : Node} (groups : Nat → Width) :
    N node node' → node'.width groups = node.width groups
  refl (node : Node) : N node node
  branch {nodes nodes' : List Node} :
    List.Forall₂ N nodes nodes' → B (nodes.flatMap Node.items) (nodes'.flatMap Node.items)
  sequence {branch branch' : List Node} :
    B branch branch' → N (.sequence branch) (.sequence branch')
  choice {branches branches' : List (List Node)} :
    List.Forall₂ B branches branches' → N (.choice branches) (.choice branches')
  wrap {node node' : Node} {wrap : Node → Node} :
    N node node' → IsWrapper wrap → N (wrap node) (wrap node')
  given {yes yes' no no' : Node} (index : Nat) :
    N yes yes' → N no no' → N (.given index yes no) (.given index yes' no')

variable {P : Flags → Flags → Prop} {N : Node → Node → Prop} {B : List Node → List Node → Prop}

/-! ## Frames -/

/-- Frames of one kind, up to the branch that a condition keeps. -/
inductive FrameKind.Like (N : Node → Node → Prop) : FrameKind → FrameKind → Prop
  | same (kind : FrameKind) : Like N kind kind
  | given (index : Nat) {yes yes' : Node} (hyes : N yes yes') :
    Like N (.given index (some yes)) (.given index (some yes'))

theorem FrameKind.Like.eq_or {kind kind' : FrameKind} (h : kind.Like N kind') :
    kind' = kind ∨ ∃ index yes yes', kind = .given index (some yes) ∧
      kind' = .given index (some yes') ∧ N yes yes' := by
  cases h with
  | same => exact Or.inl rfl
  | given index hyes => exact Or.inr ⟨index, _, _, rfl, rfl, hyes⟩

theorem FrameKind.Like.ne_whole {kind kind' : FrameKind} (h : kind.Like N kind')
    (hne : kind ≠ .whole) : kind' ≠ .whole := by
  cases h with
  | same => exact hne
  | given index hyes => nofun

/-- Frames that agree in all but their modes and trees. -/
structure Frame.Like (P : Flags → Flags → Prop) (N : Node → Node → Prop)
    (B : List Node → List Node → Prop) (g f : Frame) : Prop where
  kind : g.kind.Like N f.kind
  flags : P g.flags f.flags
  branches : List.Forall₂ B g.branches f.branches
  items : List.Forall₂ N g.items f.items
  last : f.last = g.last

theorem isEmpty_of_forall₂ {α β : Type} {R : α → β → Prop} {xs : List α} {ys : List β}
    (h : List.Forall₂ R xs ys) : ys.isEmpty = xs.isEmpty := by
  cases h with
  | nil | cons => rfl

namespace Frame.Like

variable {g f : Frame}

theorem push (h : Like P N B g f) {node node' : Node} (hnode : N node node') (last : LastItem) :
    Like P N B (g.push node last) (f.push node' last) :=
  ⟨h.kind, h.flags, h.branches, .cons hnode h.items, rfl⟩

theorem opened (kind : FrameKind) {flags flags' : Flags} (h : P flags flags') :
    Like P N B { kind, flags } { kind, flags := flags' } :=
  ⟨.same kind, h, .nil, .nil, rfl⟩

theorem branch (hC : Congruence P N B) (h : Like P N B g f) : B g.branch f.branch :=
  hC.branch (List.rel_reverse h.items)

theorem body (hC : Congruence P N B) (h : Like P N B g f) : N g.body f.body :=
  hC.choice (List.rel_reverse (.cons (h.branch hC) h.branches))

theorem nextBranch (hC : Congruence P N B) (h : Like P N B g f) :
    Like P N B g.nextBranch f.nextBranch := by
  have hbranch := h.branch hC
  -- the fields of both frames are named, so that the kind alone is left to look at
  obtain ⟨kind, flags, branches, items, last⟩ := g
  obtain ⟨kind', flags', branches', items', last'⟩ := f
  obtain ⟨hkind, hflags, hbranches, -, -⟩ := h
  have hnext : Like P N B
      { kind, flags, branches := Frame.branch ⟨kind, flags, branches, items, last⟩ :: branches }
      { kind := kind', flags := flags',
        branches := Frame.branch ⟨kind', flags', branches', items', last'⟩ :: branches' } :=
    ⟨hkind, hflags, .cons hbranch hbranches, .nil, rfl⟩
  dsimp only at hkind
  cases hkind with
  | same =>
    cases kind with
    | given index yes =>
      cases yes with
      | none => exact ⟨.given index (hC.sequence hbranch), hflags, .nil, .nil, rfl⟩
      | some yes => exact hnext
    | _ => exact hnext
  | given index hyes => exact hnext

theorem repeated (hC : Congruence P N B) (h : Like P N B g f) (least : Nat) (most : Option Nat) :
    Like P N B (g.repeated least most) (f.repeated least most) := by
  have hitems := h.items
  unfold Frame.repeated
  cases hg : g.items with
  | nil =>
    rw [hg, List.forall₂_nil_left_iff] at hitems
    rw [hitems]
    exact h
  | cons node items =>
    rw [hg, List.forall₂_cons_left_iff] at hitems
    obtain ⟨node', items', hnode, hrest, hf⟩ := hitems
    rw [hf]
    exact ⟨h.kind, h.flags, h.branches, .cons (hC.wrap hnode (.loop least most)) hrest, rfl⟩

theorem withGreed (hC : Congruence P N B) (h : Like P N B g f) (greed : Greed) :
    Like P N B (g.withGreed greed) (f.withGreed greed) := by
  have hitems := h.items
  cases hg : g.items with
  | nil =>
    rw [hg, List.forall₂_nil_left_iff] at hitems
    rw [Frame.withGreed, Frame.withGreed, hg, hitems]
    exact ⟨h.kind, h.flags, h.branches, .nil, h.last⟩
  | cons node items =>
    rw [hg, List.forall₂_cons_left_iff] at hitems
    obtain ⟨node', items', hnode, hrest, hf⟩ := hitems
    rw [Frame.withGreed_cons hg, Frame.withGreed_cons hf]
    exact ⟨h.kind, h.flags, h.branches, .cons (hC.wrap hnode (.greed greed)) hrest, h.last⟩

theorem isFresh (h : Like P N B g f) : f.isFresh = g.isFresh := by
  rw [Frame.isFresh, Frame.isFresh, isEmpty_of_forall₂ h.branches, isEmpty_of_forall₂ h.items]

theorem closed (hC : Congruence P N B) (h : Like P N B g f) (back : Nat) :
    N (g.closed back) (f.closed back) := by
  have hbody := h.body hC
  have hbranch := hC.sequence (h.branch hC)
  unfold Frame.closed
  rcases h.kind.eq_or with hsame | ⟨index, yes, yes', hkind, hkind', hyes⟩
  · rw [hsame]
    cases g.kind with
    | whole | plain => exact hbody
    | capture index => exact hC.wrap hbody (.group index)
    | scope => exact hC.wrap hbody .scope
    | atomic => exact hC.wrap hbody .atomic
    | look behind negated outermost =>
      cases behind with
      | false => exact hC.wrap hbody (.look .ahead negated)
      | true => exact hC.wrap hbody (.look (.behind back) negated)
    | given index yes =>
      cases yes with
      | none => exact hC.given index hbranch (hC.refl .empty)
      | some yes => exact hC.given index (hC.refl yes) hbranch
  · rw [hkind, hkind']
    exact hC.given index hyes hbranch

theorem turnOn (hC : Congruence P N B) (h : Like P N B g f) (on : Flags) :
    Like P N B { g with flags := g.flags.union on } { f with flags := f.flags.union on } :=
  ⟨h.kind, hC.union on h.flags, h.branches, h.items, h.last⟩

end Frame.Like

theorem Reader.afterGroup_of_like {kind kind' : FrameKind} (h : kind.Like N kind') (r : Reader)
    (width : Width) : r.afterGroup kind' width = r.afterGroup kind width := by
  cases h with
  | same | given => rfl

/-- Frames that agree up to a congruence let one reader follow the other. -/
theorem Congruence.simulation (hC : Congruence P N B) : Simulation (Frame.Like P N B) where
  verbose h := hC.verbose h.flags
  leaf last h hleaf := h.push (hC.leaf h.flags hleaf) last
  backref index h := h.push (hC.backref index h.flags) .item
  opened h _ := .opened _ h.flags
  scope on off h := .opened .scope (hC.within on off h.flags)
  nextBranch {g f} h hopen := by
    refine ⟨?_, h.nextBranch hC⟩
    intro index yes' hkind
    rcases h.kind.eq_or with hsame | ⟨index', yes, yes'', hk, -, -⟩
    · exact hopen index yes' (hsame.symm.trans hkind)
    · exact hopen index' yes hk
  ends h hwhole := by
    refine ⟨h.kind.ne_whole hwhole, fun groups => hC.width groups (h.body hC), ?_⟩
    exact fun r width => Reader.afterGroup_of_like h.kind r width
  closed back h hparent _ := hparent.push (h.closed hC back) .item
  repeated {g f} least most h hitem hne := by
    refine ⟨h.last.trans hitem, ?_, h.repeated hC least most⟩
    intro hnil
    have hitems := h.items
    rw [hnil, List.forall₂_nil_right_iff] at hitems
    exact hne hitems
  withGreed greed h := h.withGreed hC greed
  turnOn on h hfresh := ⟨h.isFresh.trans hfresh, h.turnOn hC on⟩

/-! ## Readers -/

namespace Reader

/-- Readers that agree in all but their modes and trees. -/
inductive Twin (P : Flags → Flags → Prop) (N : Node → Node → Prop)
    (B : List Node → List Node → Prop) (given : Flags) (a : Reader) : Reader → Prop
  | mk {top : Frame} {outer : List Frame} (htop : a.top.Like P N B top)
    (houter : List.Forall₂ (Frame.Like P N B) a.outer outer) :
    Twin P N B given a (a.reframe given top outer)

namespace Twin

variable {given : Flags} {a b a' : Reader}

theorem iff_follows : Twin P N B given a b ↔ Follows (Frame.Like P N B) given a b := by
  constructor
  · rintro ⟨htop, houter⟩
    exact .mk htop houter
  · rintro ⟨htop, houter⟩
    exact .mk htop houter

/-- What an action does to one reader it does to the other. -/
theorem act (hC : Congruence P N B) (h : Twin P N B given a b) {x : Action}
    (ha : a.act x = .ok a') : ∃ b', b.act x = .ok b' ∧ Twin P N B given a' b' := by
  obtain ⟨b', hb, h'⟩ := (iff_follows.mp h).act hC.simulation ha
  exact ⟨b', hb, iff_follows.mpr h'⟩

end Twin

end Reader

end ProblemMatcher.Regex
