import ProblemMatcher.Proofs.Regex.Parallel

/-!
# A reading that another one follows

Two readers have been given the same tokens and agree in everything but their frames and the modes
they were given. If the frames are related so that whatever the first one takes the second one can
take too, the second reader follows the first to the end of the pattern.

1. `reframe`, `close_eq`: a reader with its frames exchanged, and what each action makes of it.
2. `Simulation`: a relation of frames with which one reader follows another.
3. `Follows.act`, `Follows.read`, `Follows.settle`: an action, a run and the end.
-/

namespace ProblemMatcher.Regex

open ProblemMatcher.Text

/-! ## Frames exchanged -/

namespace Reader

/-- The reader as it is under other modes, with other frames. -/
def reframe (r : Reader) (given : Flags) (top : Frame) (outer : List Frame) : Reader :=
  { r with given, top, outer }

theorem nextBranch_eq {r : Reader} (h : ∀ index yes, r.top.kind ≠ .given index (some yes)) :
    r.nextBranch = .ok { r with top := r.top.nextBranch, mode := .ready } := by
  unfold nextBranch Frame.nextBranch
  split
  · rename_i hkind
    rw [hkind]
  · rename_i index yes hkind
    exact absurd hkind (h index yes)
  · rename_i hnone hsome
    split
    · rename_i hkind
      exact absurd hkind (hnone _)
    · rfl

theorem repeatLast_eq_ok {r r' : Reader} {least : Nat} {most : Option Nat} :
    r.repeatLast least most = .ok r' ↔ r.top.last = .item ∧ r.top.items ≠ [] ∧
      r' = { r with top := r.top.repeated least most, hasLoop := true, mode := .afterRepeat } := by
  constructor
  · intro h
    refine ⟨?_, eq_of_repeatLast h⟩
    unfold repeatLast at h
    split at h
    · assumption
    · cases h
    · cases h
  · rintro ⟨hlast, hitems, rfl⟩
    obtain ⟨node, items, hnode⟩ := List.exists_cons_of_ne_nil hitems
    unfold repeatLast Frame.repeated
    rw [hlast, hnode]

theorem turnOn_eq {r : Reader} (houter : r.outer = []) (hfresh : r.top.isFresh = true)
    (on : Flags) :
    r.readTurnOn on (.char ')') = .ok { r with
      inline := r.inline.union on
      top := { r.top with flags := r.top.flags.union on }
      mode := .ready } := by
  have hcond : (r.outer.isEmpty && r.top.isFresh) = true := by rw [houter, hfresh]; rfl
  exact if_pos hcond

/-- What the end of a group leaves of a reader, its frames apart. -/
def afterGroup (r : Reader) (kind : FrameKind) (width : Width) : Reader :=
  match kind with
  | .capture index => { r with closed := (index, width) :: r.closed }
  | .look true _ outermost =>
    { r with
      lookbehindFrom := if outermost then none else r.lookbehindFrom
      unfixedLookbehind := r.unfixedLookbehind || width.fixed?.isNone
      wideLookbehind := r.wideLookbehind || width.fixed?.any (maxLookbehind < ·) }
  | _ => r

theorem close_eq {r : Reader} {parent : Frame} {outer : List Frame}
    (houter : r.outer = parent :: outer) (hkind : r.top.kind ≠ .whole) :
    r.close = .ok (((r.afterGroup r.top.kind (r.top.body.width r.groupWidth)).reframe r.given
      parent outer).push (r.top.closed ((r.top.body.width r.groupWidth).fixed?.getD 0))) := by
  unfold Frame.closed
  cases hk : r.top.kind with
  | whole => contradiction
  | capture index | plain | scope | atomic =>
    simp only [close, houter, hk]
    rfl
  | look behind negated outermost =>
    cases behind with
    | false | true =>
      simp only [close, houter, hk]
      rfl
  | given index yes =>
    cases yes with
    | none | some yes =>
      simp only [close, houter, hk]
      rfl

section Reframe

variable (a : Reader) (given : Flags) (top : Frame) (outer : List Frame)

theorem checkLookbehind_reframe (index : Nat) :
    (a.reframe given top outer).checkLookbehind index = a.checkLookbehind index := rfl

theorem refer_reframe (index : Nat) :
    (a.reframe given top outer).refer index = (a.refer index).map fun a' =>
      a'.reframe given (top.push (.backref index top.rule)) outer := by
  have hcount : (a.reframe given top outer).groupCount = a.groupCount := rfl
  have hclosed : (a.reframe given top outer).isClosed index = a.isClosed index := rfl
  simp only [refer, hcount, hclosed, checkLookbehind_reframe, bind, Except.bind, pure, Except.pure]
  split_ifs
  · rfl
  · rfl
  · rfl
  · cases a.checkLookbehind index with
    | error cause => rfl
    | ok done => rfl

theorem close_reframe (parent : Frame) (hkind : top.kind ≠ .whole) :
    (a.reframe given top (parent :: outer)).close = .ok
      (((a.afterGroup top.kind (top.body.width a.groupWidth)).reframe given parent outer).push
        (top.closed ((top.body.width a.groupWidth).fixed?.getD 0))) := by
  have hafter : ∀ kind width,
      ((a.reframe given top (parent :: outer)).afterGroup kind width).reframe given parent outer =
        (a.afterGroup kind width).reframe given parent outer := by
    intro kind width
    unfold afterGroup
    split <;> rfl
  rw [close_eq (r := a.reframe given top (parent :: outer)) rfl hkind]
  exact congrArg (fun r => Except.ok (Reader.push r _ _)) (hafter _ _)

theorem openCondition_reframe (name : List Char) :
    (a.reframe given top outer).openCondition name = (a.openCondition name).map fun a' =>
      a'.reframe given { kind := a'.top.kind, flags := top.flags } (top :: outer) := by
  have hnames : (a.reframe given top outer).names = a.names := rfl
  simp only [openCondition, hnames, checkLookbehind_reframe, bind, Except.bind, pure, Except.pure]
  by_cases hname : isIdentifier name = true
  · simp only [if_pos hname]
    cases a.names.lookup name with
    | none => rfl
    | some index =>
      dsimp only
      cases a.checkLookbehind index with
      | error cause => rfl
      | ok done => rfl
  · simp only [if_neg hname]
    cases parseInt name with
    | error fault => rfl
    | ok number =>
      by_cases hneg : number < 0
      · simp only [if_pos hneg]
        rfl
      · simp only [if_neg hneg]
        by_cases hrange : (decide (number.toNat = 0) || decide (maxGroups ≤ number.toNat)) = true
        · simp only [hrange, if_true]
          rfl
        · simp only [hrange]
          cases a.checkLookbehind number.toNat with
          | error cause => rfl
          | ok done => rfl

end Reframe

end Reader

/-! ## Frames -/

/-- A relation of frames that stays true when both readers do the same, and that lets the second one
do whatever the first one can. -/
structure Simulation (F : Frame → Frame → Prop) : Prop where
  verbose {g f : Frame} : F g f → f.flags.verbose = g.flags.verbose
  leaf {g f : Frame} {leaf : Frame → Node} (last : LastItem) :
    F g f → IsLeaf leaf → F (g.push (leaf g) last) (f.push (leaf f) last)
  backref {g f : Frame} (index : Nat) :
    F g f → F (g.push (.backref index g.rule)) (f.push (.backref index f.rule))
  opened {g f : Frame} {kind : FrameKind} : F g f → kind ≠ .whole →
    F { kind, flags := g.flags } { kind, flags := f.flags }
  scope {g f : Frame} (on off : Flags) : F g f →
    F { kind := .scope, flags := g.flags.within on off }
      { kind := .scope, flags := f.flags.within on off }
  nextBranch {g f : Frame} : F g f → (∀ index yes, g.kind ≠ .given index (some yes)) →
    (∀ index yes, f.kind ≠ .given index (some yes)) ∧ F g.nextBranch f.nextBranch
  ends {g f : Frame} : F g f → g.kind ≠ .whole → f.kind ≠ .whole ∧
    (∀ groups, f.body.width groups = g.body.width groups) ∧
      ∀ (r : Reader) width, r.afterGroup f.kind width = r.afterGroup g.kind width
  closed {g f parent parent' : Frame} (back : Nat) : F g f → F parent parent' →
    g.kind ≠ .whole → F (parent.push (g.closed back)) (parent'.push (f.closed back))
  repeated {g f : Frame} (least : Nat) (most : Option Nat) : F g f → g.last = .item →
    g.items ≠ [] → f.last = .item ∧ f.items ≠ [] ∧
      F (g.repeated least most) (f.repeated least most)
  withGreed {g f : Frame} (greed : Greed) : F g f → F (g.withGreed greed) (f.withGreed greed)
  turnOn {g f : Frame} (on : Flags) : F g f → g.isFresh = true → f.isFresh = true ∧
    F { g with flags := g.flags.union on } { f with flags := f.flags.union on }

/-! ## Readers -/

namespace Reader

variable {F : Frame → Frame → Prop}

/-- A reader that agrees with another one in all but its modes and frames, and whose frames are
related to those of the other. -/
inductive Follows (F : Frame → Frame → Prop) (given : Flags) (a : Reader) : Reader → Prop
  | mk {top : Frame} {outer : List Frame} (htop : F a.top top)
    (houter : List.Forall₂ F a.outer outer) : Follows F given a (a.reframe given top outer)

namespace Follows

variable {given : Flags} {a b a' : Reader}

theorem top (h : Follows F given a b) : F a.top b.top := by
  cases h with
  | mk htop houter => exact htop

theorem mode (h : Follows F given a b) : b.mode = a.mode := by
  cases h with
  | mk htop houter => rfl

theorem push (h : Follows F given a b) {node node' : Node} {last : LastItem}
    (hF : F (a.top.push node last) (b.top.push node' last)) :
    Follows F given (a.push node last) (b.push node' last) := by
  cases h with
  | mk htop houter => exact .mk hF houter

theorem leaf (hS : Simulation F) (h : Follows F given a b) {leaf : Frame → Node}
    (hleaf : IsLeaf leaf) (last : LastItem) :
    Follows F given (a.push (leaf a.top) last) (b.push (leaf b.top) last) :=
  h.push (hS.leaf last h.top hleaf)

theorem enter (h : Follows F given a b) {kind : FrameKind} {flags flags' : Flags}
    (hF : F { kind, flags } { kind, flags := flags' }) :
    Follows F given (a.enter kind flags) (b.enter kind flags') := by
  cases h with
  | mk htop houter => exact .mk hF (.cons htop houter)

theorem openCapture (hS : Simulation F) (h : Follows F given a b) :
    Follows F given a.openCapture b.openCapture := by
  cases h with
  | mk htop houter => exact .mk (hS.opened htop nofun) (.cons htop houter)

theorem refer (hS : Simulation F) (h : Follows F given a b) {index : Nat}
    (ha : a.refer index = .ok a') :
    ∃ b', b.refer index = .ok b' ∧ Follows F given a' b' := by
  obtain rfl := eq_of_refer ha
  refine ⟨b.push (.backref index b.top.rule), ?_, h.push (hS.backref index h.top)⟩
  cases h with
  | mk htop houter =>
    rw [refer_reframe, ha]
    rfl

theorem referNamed (hS : Simulation F) (h : Follows F given a b) {name : List Char}
    (ha : a.referNamed name = .ok a') :
    ∃ b', b.referNamed name = .ok b' ∧ Follows F given a' b' := by
  have hnames : b.names = a.names := by
    cases h
    rfl
  unfold Reader.referNamed at ha ⊢
  rw [hnames]
  by_cases hname : (!isIdentifier name) = true
  · rw [if_pos hname] at ha
    cases ha
  · rw [if_neg hname] at ha ⊢
    cases hindex : a.names.lookup name with
    | none =>
      rw [hindex] at ha
      cases ha
    | some index =>
      rw [hindex] at ha
      exact h.refer hS ha

theorem openNamed (hS : Simulation F) (h : Follows F given a b) {name : List Char}
    (ha : a.openNamed name = .ok a') :
    ∃ b', b.openNamed name = .ok b' ∧ Follows F given a' b' := by
  cases h with
  | @mk top outer htop houter =>
    have hnames : (a.reframe given top outer).names = a.names := rfl
    unfold Reader.openNamed at ha ⊢
    rw [hnames]
    split_ifs at ha ⊢
    · cases ha
    · cases ha
    · cases ha
      have hnamed : Follows F given { a with names := (name, a.groupCount + 1) :: a.names }
          (reframe { a with names := (name, a.groupCount + 1) :: a.names } given top outer) :=
        .mk htop houter
      exact ⟨_, rfl, hnamed.openCapture hS⟩

theorem openLook (hS : Simulation F) (h : Follows F given a b) (behind negated : Bool) :
    Follows F given (a.openLook behind negated) (b.openLook behind negated) := by
  cases h with
  | @mk top outer htop houter =>
    have hfrom : (a.reframe given top outer).lookbehindFrom = a.lookbehindFrom := rfl
    unfold Reader.openLook
    rw [hfrom]
    cases behind && a.lookbehindFrom.isNone with
    | true => exact .mk (hS.opened htop nofun) (.cons htop houter)
    | false => exact .mk (hS.opened htop nofun) (.cons htop houter)

theorem openCondition (hS : Simulation F) (h : Follows F given a b) {name : List Char}
    (ha : a.openCondition name = .ok a') :
    ∃ b', b.openCondition name = .ok b' ∧ Follows F given a' b' := by
  cases h with
  | @mk top outer htop houter =>
    rw [openCondition_reframe, ha]
    obtain ⟨index, furthest, rfl⟩ := eq_of_openCondition ha
    exact ⟨_, rfl, .mk (hS.opened htop nofun) (.cons htop houter)⟩

theorem nextBranch (hS : Simulation F) (h : Follows F given a b) (ha : a.nextBranch = .ok a') :
    ∃ b', b.nextBranch = .ok b' ∧ Follows F given a' b' := by
  cases h with
  | @mk top outer htop houter =>
    have hopen : ∀ index yes, a.top.kind ≠ .given index (some yes) := by
      intro index yes hkind
      rw [Reader.nextBranch, hkind] at ha
      cases ha
    obtain ⟨hopen', hnext⟩ := hS.nextBranch htop hopen
    obtain rfl := eq_of_nextBranch ha
    exact ⟨_, nextBranch_eq (r := a.reframe given top outer) hopen', .mk hnext houter⟩

theorem close (hS : Simulation F) (h : Follows F given a b) (ha : a.close = .ok a') :
    ∃ b', b.close = .ok b' ∧ Follows F given a' b' := by
  cases h with
  | @mk top outer htop houter =>
    cases hao : a.outer with
    | nil =>
      rw [Reader.close, hao] at ha
      dsimp only at ha
      split_ifs at ha
      · cases ha
    | cons parent inner =>
      rw [hao] at houter
      cases houter with
      | cons hparent hinner =>
        rename_i parent' inner'
        -- a group is open, so the frame closed is not the one of the whole pattern
        have hwhole : a.top.kind ≠ .whole := by
          intro hkind
          simp only [Reader.close, hao, hkind] at ha
          cases ha
        -- the bodies are equally wide, so both readers note the same about the group
        obtain ⟨hwhole', hwidth, hafter⟩ := hS.ends htop hwhole
        have hclose := close_reframe a given top inner' parent' hwhole'
        rw [hwidth a.groupWidth, hafter] at hclose
        rw [close_eq hao hwhole] at ha
        cases ha
        exact ⟨_, hclose, .mk (hS.closed _ htop hparent hwhole) hinner⟩

theorem repeatLast (hS : Simulation F) (h : Follows F given a b) {least : Nat}
    {most : Option Nat} (ha : a.repeatLast least most = .ok a') :
    ∃ b', b.repeatLast least most = .ok b' ∧ Follows F given a' b' := by
  cases h with
  | @mk top outer htop houter =>
    obtain ⟨hitem, hne, rfl⟩ := repeatLast_eq_ok.mp ha
    obtain ⟨hlast, hne', hrepeated⟩ := hS.repeated least most htop hitem hne
    exact ⟨_, repeatLast_eq_ok.mpr ⟨hlast, hne', rfl⟩, .mk hrepeated houter⟩

theorem text (hS : Simulation F) (h : Follows F given a b) {c : Char}
    (ha : a.act (.text c) = .ok a') : ∃ b', b.act (.text c) = .ok b' ∧ Follows F given a' b' := by
  have hverbose := hS.verbose h.top
  simp only [Reader.act_text, hverbose] at ha ⊢
  split_ifs at ha ⊢
  · cases ha
    cases h with
    | mk htop houter => exact ⟨_, rfl, .mk htop houter⟩
  · cases ha
    cases h with
    | mk htop houter => exact ⟨_, rfl, .mk htop houter⟩
  · cases ha
    exact ⟨_, rfl, h.leaf hS (.literal c.toNat) .item⟩

theorem setGreed (hS : Simulation F) (h : Follows F given a b) {greed : Greed}
    (ha : a.act (.greed greed) = .ok a') :
    ∃ b', b.act (.greed greed) = .ok b' ∧ Follows F given a' b' := by
  cases h with
  | @mk top outer htop houter =>
    have hmode : (a.reframe given top outer).mode = a.mode := rfl
    by_cases hafter : a.mode = .afterRepeat
    · simp only [Reader.act_greed, hmode, if_pos hafter] at ha ⊢
      cases ha
      exact ⟨_, rfl, .mk (hS.withGreed greed htop) houter⟩
    · simp only [Reader.act_greed, if_neg hafter] at ha
      cases ha

theorem turnOn (hS : Simulation F) (h : Follows F given a b) {on : Flags}
    (ha : a.readTurnOn on (.char ')') = .ok a') :
    ∃ b', b.readTurnOn on (.char ')') = .ok b' ∧ Follows F given a' b' := by
  obtain ⟨hnil, hfresh, rfl⟩ := eq_of_turnOn ha
  cases h with
  | @mk top outer htop houter =>
    -- modes are turned on outside of all groups, so neither reader has one open
    rw [hnil, List.forall₂_nil_left_iff] at houter
    obtain rfl := houter
    obtain ⟨hfresh', hon⟩ := hS.turnOn on htop hfresh
    refine ⟨_, turnOn_eq (r := a.reframe given top []) rfl hfresh' on, .mk hon ?_⟩
    rw [hnil]
    exact .nil

/-- What an action does to one reader it does to the other. -/
theorem act (hS : Simulation F) (h : Follows F given a b) {x : Action} (ha : a.act x = .ok a') :
    ∃ b', b.act x = .ok b' ∧ Follows F given a' b' := by
  cases x with
  | go mode free =>
    cases ha
    cases h with
    | mk htop houter => exact ⟨_, rfl, .mk htop houter⟩
  | reject cause => cases ha
  | literal code =>
    cases ha
    exact ⟨_, rfl, h.leaf hS (.literal code) .item⟩
  | text c => exact h.text hS ha
  | set items negated =>
    cases ha
    exact ⟨_, rfl, h.leaf hS (.set items negated) .item⟩
  | dot =>
    cases ha
    exact ⟨_, rfl, h.leaf hS .dot .item⟩
  | place which =>
    cases ha
    exact ⟨_, rfl, h.leaf hS (.place which) .place⟩
  | refer index => exact h.refer hS ha
  | referNamed name => exact h.referNamed hS ha
  | capture =>
    cases ha
    exact ⟨_, rfl, h.openCapture hS⟩
  | named name => exact h.openNamed hS ha
  | plain =>
    cases ha
    exact ⟨_, rfl, h.enter (hS.opened h.top nofun)⟩
  | atomic =>
    cases ha
    exact ⟨_, rfl, h.enter (hS.opened h.top nofun)⟩
  | scope on off =>
    cases ha
    exact ⟨_, rfl, h.enter (hS.scope on off h.top)⟩
  | look behind negated =>
    cases ha
    exact ⟨_, rfl, h.openLook hS behind negated⟩
  | condition name => exact h.openCondition hS ha
  | branch => exact h.nextBranch hS ha
  | close => exact h.close hS ha
  | loop least most => exact h.repeatLast hS ha
  | greed greed => exact h.setGreed hS ha
  | turnOn on => exact h.turnOn hS ha

theorem play (hS : Simulation F) {acts : List Action} (h : Follows F given a b)
    (ha : a.play acts = .ok a') : ∃ b', b.play acts = .ok b' ∧ Follows F given a' b' := by
  induction acts generalizing a b with
  | nil =>
    cases ha
    exact ⟨b, rfl, h⟩
  | cons x rest ih =>
    obtain ⟨middle, hx, hrest⟩ := play_cons.mp ha
    obtain ⟨next, hnext, h⟩ := h.act hS hx
    obtain ⟨b', hb', h'⟩ := ih h hrest
    exact ⟨b', play_cons.mpr ⟨next, hnext, hb'⟩, h'⟩

theorem step (hS : Simulation F) {t : Token} (h : Follows F given a b)
    (ha : a.step t = .ok a') : ∃ b', b.step t = .ok b' ∧ Follows F given a' b' := by
  obtain ⟨acts, hacts⟩ := step_isPlayed a.mode t
  rw [hacts a rfl] at ha
  rw [hacts b h.mode]
  exact h.play hS ha

/-- Whatever tokens the first reader takes, the second one follows. -/
theorem read (hS : Simulation F) {tokens : List Token} (h : Follows F given a b)
    (ha : a.read tokens = .ok a') : ∃ b', b.read tokens = .ok b' ∧ Follows F given a' b' := by
  induction tokens generalizing a b with
  | nil =>
    cases ha
    exact ⟨b, rfl, h⟩
  | cons t rest ih =>
    obtain ⟨middle, ht, hrest⟩ := read_cons.mp ha
    obtain ⟨next, hnext, h⟩ := h.step hS ht
    obtain ⟨b', hb', h'⟩ := ih h hrest
    exact ⟨b', read_cons.mpr ⟨next, hnext, hb'⟩, h'⟩

theorem settle (hS : Simulation F) (h : Follows F given a b) (ha : a.settle = .ok a') :
    ∃ b', b.settle = .ok b' ∧ Follows F given a' b' := by
  obtain ⟨acts, hacts⟩ := settle_isPlayed a.mode
  rw [hacts a rfl] at ha
  rw [hacts b h.mode]
  exact h.play hS ha

end Follows

end Reader

end ProblemMatcher.Regex
