import ProblemMatcher.Proofs.Regex.Groups
import ProblemMatcher.Proofs.Regex.Seam

/-!
# Group numbers

Groups are numbered in the order in which they are opened. So while a pattern is read, every group
in the open frames has a number up to the count of groups so far.

1. `Frame.staysBelow_closed`: closing a frame brings in no other groups.
2. `Reader.IsNumbered`: the bound on all open frames; kept by every action.
3. `staysBelow_root`: the bound on the tree that is read.
-/

namespace ProblemMatcher.Regex

/-! ## Frames -/

/-- The group that a frame opens, or those in the first branch that it keeps. -/
def FrameKind.groups : FrameKind → List Nat
  | .capture index => [index]
  | .given _ (some yes) => yes.groups
  | _ => []

namespace Frame

/-- All groups in the frame stay below the limit. -/
structure StaysBelow (limit : Nat) (f : Frame) : Prop where
  kind : ∀ g ∈ f.kind.groups, 1 ≤ g ∧ g < limit
  branches : ∀ branch ∈ f.branches, ∀ node ∈ branch, node.StaysBelow limit
  items : ∀ node ∈ f.items, node.StaysBelow limit

variable {limit : Nat} {f : Frame}

theorem StaysBelow.mono (h : f.StaysBelow limit) {limit' : Nat} (hle : limit ≤ limit') :
    f.StaysBelow limit' where
  kind g hg := ⟨(h.kind g hg).1, Nat.lt_of_lt_of_le (h.kind g hg).2 hle⟩
  branches branch hbranch node hnode := (h.branches branch hbranch node hnode).mono hle
  items node hnode := (h.items node hnode).mono hle

theorem staysBelow_fresh {kind : FrameKind} (h : ∀ g ∈ kind.groups, 1 ≤ g ∧ g < limit)
    (flags : Flags) : Frame.StaysBelow limit { kind, flags } :=
  ⟨h, nofun, nofun⟩

theorem StaysBelow.push (h : f.StaysBelow limit) {node : Node} (hnode : node.StaysBelow limit)
    (last : LastItem) : (f.push node last).StaysBelow limit :=
  ⟨h.kind, h.branches, List.forall_mem_cons.mpr ⟨hnode, h.items⟩⟩

theorem StaysBelow.branch (h : f.StaysBelow limit) : ∀ node ∈ f.branch, node.StaysBelow limit := by
  intro node hnode
  obtain ⟨item, hitem, hnode⟩ := List.mem_flatMap.mp hnode
  exact Node.staysBelow_items.mpr (h.items item (List.mem_reverse.mp hitem)) node hnode

theorem StaysBelow.body (h : f.StaysBelow limit) : f.body.StaysBelow limit := by
  refine Node.staysBelow_choice.mpr fun branch hbranch => ?_
  rcases List.mem_cons.mp (List.mem_reverse.mp hbranch) with rfl | hbranch
  · exact h.branch
  · exact h.branches branch hbranch

theorem StaysBelow.nextBranch (h : f.StaysBelow limit) : f.nextBranch.StaysBelow limit := by
  unfold Frame.nextBranch
  split
  · refine staysBelow_fresh ?_ f.flags
    exact Node.staysBelow_sequence.mpr h.branch
  · exact ⟨h.kind, List.forall_mem_cons.mpr ⟨h.branch, h.branches⟩, nofun⟩

theorem staysBelow_closed (h : f.StaysBelow limit) (back : Nat) :
    (f.closed back).StaysBelow limit := by
  have hkind := h.kind
  have hsequence := Node.staysBelow_sequence.mpr h.branch
  unfold closed
  split
  · exact h.body
  · exact h.body
  · rename_i index hindex
    rw [hindex] at hkind
    exact List.forall_mem_cons.mpr ⟨hkind index List.mem_cons_self, h.body⟩
  · exact h.body
  · exact h.body
  · exact h.body
  · exact h.body
  · exact List.forall_mem_append.mpr ⟨hsequence, nofun⟩
  · rename_i index yes hyes
    rw [hyes] at hkind
    exact List.forall_mem_append.mpr ⟨hkind, hsequence⟩

/-- What changes the last item keeps its groups. -/
theorem StaysBelow.mapLast (h : f.StaysBelow limit) {node : Node} {items : List Node}
    (hitems : f.items = node :: items) (node' : Node) (hgroups : node'.groups = node.groups)
    (last : LastItem) :
    Frame.StaysBelow limit { f with items := node' :: items, last } := by
  have hbelow := h.items
  rw [hitems, List.forall_mem_cons] at hbelow
  refine ⟨h.kind, h.branches, List.forall_mem_cons.mpr ⟨?_, hbelow.2⟩⟩
  unfold Node.StaysBelow
  rw [hgroups]
  exact hbelow.1

theorem StaysBelow.repeated (h : f.StaysBelow limit) (least : Nat) (most : Option Nat) :
    (f.repeated least most).StaysBelow limit := by
  unfold Frame.repeated
  split
  · rename_i node items hitems
    exact h.mapLast hitems (.loop least most .greedy node) rfl .repetition
  · exact h

theorem StaysBelow.withGreed (h : f.StaysBelow limit) (greed : Greed) :
    (f.withGreed greed).StaysBelow limit := by
  unfold Frame.withGreed
  split
  · rename_i least most old body items hitems
    exact h.mapLast hitems (.loop least most greed body) rfl f.last
  · exact h

end Frame

/-! ## Readers -/

namespace Reader

/-- All groups in the open frames are numbered up to the count of groups. -/
def IsNumbered (r : Reader) : Prop :=
  ∀ f ∈ r.top :: r.outer, f.StaysBelow (r.groupCount + 1)

theorem isNumbered_start (given : Flags) : (start given).IsNumbered := by
  intro f hf
  obtain rfl := List.mem_singleton.mp hf
  exact Frame.staysBelow_fresh (by simp [FrameKind.groups]) given

variable {r r' : Reader}

theorem IsNumbered.top (h : r.IsNumbered) : r.top.StaysBelow (r.groupCount + 1) :=
  h r.top List.mem_cons_self

theorem IsNumbered.outer (h : r.IsNumbered) : ∀ f ∈ r.outer, f.StaysBelow (r.groupCount + 1) :=
  fun f hf => h f (List.mem_cons_of_mem _ hf)

/-- Only the frame being read has changed. -/
theorem IsNumbered.inside (h : r.IsNumbered) (hcount : r'.groupCount = r.groupCount)
    (houter : r'.outer = r.outer) (htop : r'.top.StaysBelow (r.groupCount + 1)) :
    r'.IsNumbered := by
  unfold IsNumbered
  rw [hcount, houter]
  exact List.forall_mem_cons.mpr ⟨htop, h.outer⟩

theorem IsNumbered.push (h : r.IsNumbered) {node : Node} (hnode : node.groups = [])
    (last : LastItem) : (r.push node last).IsNumbered :=
  h.inside rfl rfl (h.top.push (Node.staysBelow_of_groups_eq_nil hnode) last)

/-- A frame has been opened. -/
theorem IsNumbered.enter (h : r.IsNumbered) {kind : FrameKind}
    (hkind : ∀ g ∈ kind.groups, 1 ≤ g ∧ g < r.groupCount + 1) (flags : Flags) :
    (r.enter kind flags).IsNumbered :=
  List.forall_mem_cons.mpr ⟨Frame.staysBelow_fresh hkind flags, h⟩

theorem IsNumbered.openCapture (h : r.IsNumbered) : r.openCapture.IsNumbered := by
  -- the bound goes up before the new group is opened
  have hnext : IsNumbered { r with groupCount := r.groupCount + 1 } :=
    fun f hf => (h f hf).mono (Nat.le_succ _)
  refine hnext.enter (fun g hg => ?_) r.top.flags
  obtain rfl := List.mem_singleton.mp hg
  exact ⟨Nat.le_add_left 1 _, Nat.lt_succ_self _⟩

theorem IsNumbered.close (h : r.IsNumbered) (hr : r.close = .ok r') : r'.IsNumbered := by
  obtain ⟨parent, outer, back, houter, -, htop, houter', -, hcount, -⟩ := eq_of_close hr
  have hparents := h.outer
  rw [houter, List.forall_mem_cons] at hparents
  unfold IsNumbered
  rw [hcount, htop, houter']
  exact List.forall_mem_cons.mpr
    ⟨hparents.1.push (Frame.staysBelow_closed h.top back) .item, hparents.2⟩

theorem IsNumbered.act (r : Reader) (x : Action) (r' : Reader) (h : r.IsNumbered)
    (hx : r.act x = .ok r') : r'.IsNumbered := by
  cases x with
  | go mode free =>
    cases hx
    exact h
  | reject cause => cases hx
  | literal code | set items negated | dot | place which =>
    cases hx
    exact h.push rfl _
  | text c =>
    simp only [act_text] at hx
    split_ifs at hx
    · cases hx
      exact h
    · cases hx
      exact h
    · cases hx
      exact h.push rfl _
  | refer index =>
    obtain rfl := eq_of_refer hx
    exact h.push rfl _
  | referNamed name =>
    obtain ⟨index, rfl⟩ := eq_of_referNamed hx
    exact h.push rfl _
  | capture =>
    cases hx
    exact h.openCapture
  | named name =>
    obtain ⟨names, rfl⟩ := eq_of_openNamed hx
    exact IsNumbered.openCapture (r := { r with names }) h
  | plain | atomic | scope on off =>
    cases hx
    exact h.enter (by simp [FrameKind.groups]) _
  | look behind negated =>
    cases hx
    obtain ⟨lookbehindFrom, outermost, hlook⟩ := openLook_eq r behind negated
    rw [hlook]
    exact IsNumbered.enter (r := { r with lookbehindFrom }) h (by simp [FrameKind.groups]) _
  | condition name =>
    obtain ⟨index, furthestCondition, rfl⟩ := eq_of_openCondition hx
    exact IsNumbered.enter (r := { r with furthestCondition }) h (by simp [FrameKind.groups]) _
  | branch =>
    obtain rfl := eq_of_nextBranch hx
    exact h.inside rfl rfl h.top.nextBranch
  | close => exact h.close hx
  | loop least most =>
    obtain ⟨-, rfl⟩ := eq_of_repeatLast hx
    exact h.inside rfl rfl (h.top.repeated least most)
  | greed greed =>
    simp only [act_greed] at hx
    split_ifs at hx
    · cases hx
      exact h.inside rfl rfl (h.top.withGreed greed)
    · cases hx
  | turnOn on =>
    obtain ⟨-, -, rfl⟩ := eq_of_turnOn hx
    exact h.inside rfl rfl ⟨h.top.kind, h.top.branches, h.top.items⟩

theorem IsNumbered.read {tokens : List Token} (h : r.IsNumbered) (hr : r.read tokens = .ok r') :
    r'.IsNumbered :=
  read_induction IsNumbered.act h hr

theorem IsNumbered.settle (h : r.IsNumbered) (hr : r.settle = .ok r') : r'.IsNumbered :=
  settle_induction IsNumbered.act h hr

end Reader

/-- The groups of a pattern are numbered up to their count. -/
theorem staysBelow_root {given : Flags} {source : List Char} {parsed : Parsed}
    (h : parse given source = .ok parsed) : parsed.root.StaysBelow (parsed.groupCount + 1) := by
  obtain ⟨r, settled, hr, hsettle, -, rfl⟩ := parse_eq_ok.mp h
  have hnumbered := ((Reader.isNumbered_start given).read hr).settle hsettle
  exact hnumbered.top.body

end ProblemMatcher.Regex
