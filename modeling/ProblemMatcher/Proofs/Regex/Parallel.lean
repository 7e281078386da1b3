import ProblemMatcher.Proofs.Regex.Action

/-!
# Two readings of the same tokens

The same pattern is read twice: by itself, and inside a larger one, where groups have been opened
and frames have been filled before it. While both readings go well they stay side by side. They are
in the same mode, as many groups apart as at the start, and their open frames correspond.

1. `act_of_…`: what an action has done when it went well.
2. `Correspondence`: a relation of frames that every action keeps.
3. `Alongside`: the relation of two readers; `Alongside.act` is the step, `Alongside.read` the run.
-/

namespace ProblemMatcher.Regex

open ProblemMatcher.Text

namespace Frame

theorem branch_push (f : Frame) (node : Node) (last : LastItem) :
    (f.push node last).branch = f.branch ++ node.items := by
  rw [branch, branch, push, List.reverse_cons, List.flatMap_append, List.flatMap_singleton]

/-- What closing the frame makes of it; a lookbehind steps back by `back`. -/
def closed (f : Frame) (back : Nat) : Node :=
  match f.kind with
  | .whole | .plain => f.body
  | .capture index => .group index f.body
  | .scope => .scope f.body
  | .atomic => .atomic f.body
  | .look false negated _ => .look .ahead negated f.body
  | .look true negated _ => .look (.behind back) negated f.body
  | .given index none => .given index (.sequence f.branch) .empty
  | .given index (some yes) => .given index yes (.sequence f.branch)

/-- The frame after the end of a branch. -/
def nextBranch (f : Frame) : Frame :=
  match f.kind with
  | .given index none =>
    { kind := .given index (some (.sequence f.branch)), flags := f.flags }
  | _ => { f with branches := f.branch :: f.branches, items := [], last := .nothing }

theorem nextBranch_flags (f : Frame) : f.nextBranch.flags = f.flags := by
  unfold nextBranch
  split <;> rfl

/-- The frame with its last item repeated. -/
def repeated (f : Frame) (least : Nat) (most : Option Nat) : Frame :=
  match f.items with
  | node :: items =>
    { f with items := .loop least most .greedy node :: items, last := .repetition }
  | [] => f

theorem repeated_flags (f : Frame) (least : Nat) (most : Option Nat) :
    (f.repeated least most).flags = f.flags := by
  unfold repeated
  split <;> rfl

theorem repeated_kind (f : Frame) (least : Nat) (most : Option Nat) :
    (f.repeated least most).kind = f.kind := by
  unfold repeated
  split <;> rfl

theorem repeated_items_ne_nil {f : Frame} {least : Nat} {most : Option Nat} (h : f.items ≠ []) :
    (f.repeated least most).items ≠ [] := by
  unfold repeated
  split
  · exact List.cons_ne_nil _ _
  · exact h

/-- The frame with another greed in its last item. -/
def withGreed (f : Frame) (greed : Greed) : Frame :=
  { f with items := match f.items with
      | .loop least most _ body :: items => .loop least most greed body :: items
      | items => items }

theorem withGreed_items (f : Frame) (greed : Greed) :
    (f.withGreed greed).items = [] ↔ f.items = [] := by
  unfold withGreed
  dsimp only
  split
  · rename_i hitems
    rw [hitems]
    exact ⟨nofun, nofun⟩
  · exact Iff.rfl

theorem withGreed_isFresh (f : Frame) (greed : Greed) :
    (f.withGreed greed).isFresh = f.isFresh := by
  have hitems : (f.withGreed greed).items.isEmpty = f.items.isEmpty := by
    rw [Bool.eq_iff_iff, List.isEmpty_iff, List.isEmpty_iff, withGreed_items]
  unfold isFresh
  rw [hitems]
  rfl

theorem isFresh_of_items_ne_nil {f : Frame} (h : f.items ≠ []) : f.isFresh = false := by
  unfold isFresh
  rw [Bool.and_eq_false_iff]
  exact Or.inr (by simpa using h)

end Frame

/-- The tree with another greed, if it is a repetition. -/
def Node.withGreed (greed : Greed) : Node → Node
  | .loop least most _ body => .loop least most greed body
  | node => node

theorem Frame.withGreed_cons {f : Frame} {node : Node} {items : List Node}
    (h : f.items = node :: items) (greed : Greed) :
    f.withGreed greed = { f with items := node.withGreed greed :: items } := by
  rw [Frame.withGreed, h]
  cases node <;> rfl

namespace Reader

/-! ## What an action has done -/

theorem eq_of_referNamed {r r' : Reader} {name : List Char} (h : r.referNamed name = .ok r') :
    ∃ index, r' = r.push (.backref index r.top.rule) := by
  unfold referNamed at h
  split_ifs at h
  · cases h
  · split at h
    · exact ⟨_, eq_of_refer h⟩
    · cases h

theorem eq_of_openNamed {r r' : Reader} {name : List Char} (h : r.openNamed name = .ok r') :
    ∃ names, r' = { r with names }.openCapture := by
  unfold openNamed at h
  split_ifs at h
  · cases h
  · cases h
  · exact ⟨_, (Except.ok.inj h).symm⟩

theorem openLook_eq (r : Reader) (behind negated : Bool) :
    ∃ lookbehindFrom outermost, r.openLook behind negated =
      { r with lookbehindFrom }.enter (.look behind negated outermost) r.top.flags := by
  unfold openLook
  generalize (behind && r.lookbehindFrom.isNone) = outermost
  cases outermost with
  | true => exact ⟨_, _, rfl⟩
  | false => exact ⟨r.lookbehindFrom, _, rfl⟩

theorem eq_of_openCondition {r r' : Reader} {name : List Char}
    (h : r.openCondition name = .ok r') :
    ∃ index furthestCondition,
      r' = { r with furthestCondition }.enter (.given index none) r.top.flags := by
  have hcheck : ∀ {index : Nat} {s : Reader}, (do r.checkLookbehind index; return s) = .ok r' →
      r' = s := by
    intro index s h
    cases hc : r.checkLookbehind index with
    | error cause => rw [hc] at h; cases h
    | ok done => rw [hc] at h; cases h; rfl
  -- a name is looked up and a number is checked, but either way the same frame is opened
  unfold openCondition at h
  by_cases hname : isIdentifier name = true
  · rw [if_pos hname] at h
    split at h
    · exact ⟨_, r.furthestCondition, hcheck h⟩
    · cases h
  · rw [if_neg hname] at h
    split at h
    · cases h
    · rename_i number hnumber
      simp only [bind, Except.bind] at h
      by_cases hneg : number < 0
      · rw [if_pos hneg] at h
        cases h
      · rw [if_neg hneg] at h
        by_cases hrange : (decide (number.toNat = 0) || decide (maxGroups ≤ number.toNat)) = true
        · simp only [hrange, if_true] at h
          cases h
        · simp only [hrange] at h
          exact ⟨_, _, hcheck h⟩

theorem eq_of_nextBranch {r r' : Reader} (h : r.nextBranch = .ok r') :
    r' = { r with top := r.top.nextBranch, mode := .ready } := by
  unfold nextBranch at h
  unfold Frame.nextBranch
  split at h
  · rename_i hkind
    rw [hkind]
    exact (Except.ok.inj h).symm
  · cases h
  · rename_i hnone hsome
    split
    · rename_i hkind
      exact absurd hkind (hnone _)
    · exact (Except.ok.inj h).symm

theorem eq_of_repeatLast {r r' : Reader} {least : Nat} {most : Option Nat}
    (h : r.repeatLast least most = .ok r') :
    r.top.items ≠ [] ∧
      r' = { r with top := r.top.repeated least most, hasLoop := true, mode := .afterRepeat } := by
  unfold repeatLast at h
  split at h
  · rename_i hitems
    refine ⟨by rw [hitems]; exact List.cons_ne_nil _ _, ?_⟩
    unfold Frame.repeated
    rw [hitems]
    exact (Except.ok.inj h).symm
  · cases h
  · cases h

theorem eq_of_turnOn {r r' : Reader} {on : Flags} (h : r.readTurnOn on (.char ')') = .ok r') :
    r.outer = [] ∧ r.top.isFresh = true ∧
      r' = { r with
        inline := r.inline.union on
        top := { r.top with flags := r.top.flags.union on }
        mode := .ready } := by
  unfold readTurnOn at h
  simp only at h
  split_ifs at h with hfresh
  · rw [Bool.and_eq_true, List.isEmpty_iff] at hfresh
    exact ⟨hfresh.1, hfresh.2, (Except.ok.inj h).symm⟩
  · cases h

/-- The end of a group puts what it closes into the frame around it. -/
theorem eq_of_close {r r' : Reader} (h : r.close = .ok r') :
    ∃ parent outer back, r.outer = parent :: outer ∧ r.top.kind ≠ .whole ∧
      r'.top = parent.push (r.top.closed back) ∧ r'.outer = outer ∧ r'.mode = .ready ∧
      r'.groupCount = r.groupCount ∧ r'.given = r.given ∧ r'.inline = r.inline := by
  unfold close at h
  split at h
  · split_ifs at h
    cases h
  · rename_i parent outer houter
    unfold Frame.closed
    cases hkind : r.top.kind with
    | whole => rw [hkind] at h; cases h
    | capture index | plain | scope | atomic =>
      rw [hkind] at h
      cases h
      exact ⟨parent, outer, 0, houter, nofun, rfl, rfl, rfl, rfl, rfl, rfl⟩
    | look behind negated outermost =>
      cases behind with
      | false =>
        rw [hkind] at h
        cases h
        exact ⟨parent, outer, 0, houter, nofun, rfl, rfl, rfl, rfl, rfl, rfl⟩
      | true =>
        rw [hkind] at h
        cases h
        exact ⟨parent, outer, _, houter, nofun, rfl, rfl, rfl, rfl, rfl, rfl⟩
    | given index yes =>
      cases yes with
      | none | some yes =>
        rw [hkind] at h
        cases h
        exact ⟨parent, outer, 0, houter, nofun, rfl, rfl, rfl, rfl, rfl, rfl⟩

end Reader

/-! ## Frames that correspond -/

/-- The kind of a frame without what it numbers and keeps. -/
def FrameKind.form : FrameKind → FrameKind
  | .capture _ => .capture 0
  | .look _ _ _ => .look false false false
  | .given _ _ => .given 0 none
  | kind => kind

/-- An item that depends on nothing but the modes in force. -/
inductive IsLeaf : (Frame → Node) → Prop
  | literal (code : Nat) : IsLeaf fun f => .one (.ofCode code f.rule)
  | set (items : List ClassItem) (negated : Bool) :
    IsLeaf fun f => .one { items, negated, rule := f.rule, ascii := f.flags.ascii }
  | dot : IsLeaf fun f => .one (if f.flags.dotAll then .all else .notLineFeed)
  | place (which : (multiline ascii : Bool) → Place) :
    IsLeaf fun f => .place (which f.flags.multiline f.flags.ascii)

/-- Both readings open a frame in the same way, the second one so many groups on. -/
inductive FrameKind.Opens (ahead : Nat) : FrameKind → FrameKind → Prop
  | capture (index : Nat) : Opens ahead (.capture index) (.capture (index + ahead))
  | plain : Opens ahead .plain .plain
  | atomic : Opens ahead .atomic .atomic
  | look (behind negated outermost outermost' : Bool) :
    Opens ahead (.look behind negated outermost) (.look behind negated outermost')
  | given (index index' : Nat) : Opens ahead (.given index none) (.given index' none)

theorem FrameKind.Opens.form_eq {ahead : Nat} {kind kind' : FrameKind}
    (h : kind.Opens ahead kind') : kind'.form = kind.form := by
  cases h <;> rfl

theorem FrameKind.Opens.ne_whole {ahead : Nat} {kind kind' : FrameKind}
    (h : kind.Opens ahead kind') : kind ≠ .whole := by
  rintro rfl
  cases h

/-- A relation of frames that stays true when both readings do the same, the second one so many
groups on. -/
structure Correspondence (ahead : Nat) (F : Frame → Frame → Prop) : Prop where
  verbose {g f : Frame} : F g f → f.flags.verbose = g.flags.verbose
  leaf {g f : Frame} {leaf : Frame → Node} (last : LastItem) :
    F g f → IsLeaf leaf → F (g.push (leaf g) last) (f.push (leaf f) last)
  backref {g f : Frame} (index index' : Nat) :
    F g f → F (g.push (.backref index g.rule)) (f.push (.backref index' f.rule))
  opened {g f : Frame} {kind kind' : FrameKind} : F g f → kind.Opens ahead kind' →
    F { kind, flags := g.flags } { kind := kind', flags := f.flags }
  scope {g f : Frame} (on off : Flags) : F g f →
    F { kind := .scope, flags := g.flags.within on off }
      { kind := .scope, flags := f.flags.within on off }
  nextBranch {g f : Frame} : F g f → F g.nextBranch f.nextBranch
  closed {g f parent parent' : Frame} (back back' : Nat) : F g f → F parent parent' →
    g.kind ≠ .whole → F (parent.push (g.closed back)) (parent'.push (f.closed back'))
  repeated {g f : Frame} (least : Nat) (most : Option Nat) : F g f → g.items ≠ [] →
    f.items ≠ [] → F (g.repeated least most) (f.repeated least most)
  withGreed {g f : Frame} (greed : Greed) : F g f → g.items ≠ [] → f.items ≠ [] →
    F (g.withGreed greed) (f.withGreed greed)
  turnOn {g f : Frame} (on : Flags) : F g f →
    F { g with flags := g.flags.union on } { f with flags := f.flags.union on }

/-! ## Readers that stay side by side -/

/-- One reader is at the same point as another, with `ahead` groups opened, the frames `below`
filled and perhaps some modes turned on before it. -/
structure Alongside (F : Frame → Frame → Prop) (ahead : Nat) (below : List Frame)
    (a r : Reader) : Prop where
  mode : r.mode = a.mode
  groupCount : r.groupCount = a.groupCount + ahead
  top : F a.top r.top
  outer : ∃ shared, r.outer = shared ++ below ∧ List.Forall₂ F a.outer shared
  inline : ∃ before : Flags, r.inline = before.union a.inline
  comment : a.mode = .comment → a.top.flags.verbose = true
  repetition : a.mode = .afterRepeat → a.top.items ≠ [] ∧ r.top.items ≠ []

namespace Alongside

variable {F : Frame → Frame → Prop} {ahead : Nat} {below : List Frame} {a r a' r' : Reader}

theorem go (h : Alongside F ahead below a r) {mode : Mode} (free : mode.isFree = true) :
    Alongside F ahead below { a with mode } { r with mode } where
  mode := rfl
  groupCount := h.groupCount
  top := h.top
  outer := h.outer
  inline := h.inline
  comment := by rintro rfl; cases free
  repetition := by rintro rfl; cases free

theorem push (h : Alongside F ahead below a r) {node node' : Node} {last : LastItem}
    (hF : F (a.top.push node last) (r.top.push node' last)) :
    Alongside F ahead below (a.push node last) (r.push node' last) where
  mode := rfl
  groupCount := h.groupCount
  top := hF
  outer := h.outer
  inline := h.inline
  comment := nofun
  repetition := nofun

theorem enter (h : Alongside F ahead below a r) {kind kind' : FrameKind} {flags flags' : Flags}
    (hF : F { kind, flags } { kind := kind', flags := flags' }) :
    Alongside F ahead below (a.enter kind flags) (r.enter kind' flags') where
  mode := rfl
  groupCount := h.groupCount
  top := hF
  outer := by
    obtain ⟨shared, houter, hframes⟩ := h.outer
    exact ⟨r.top :: shared, congrArg (r.top :: ·) houter, .cons h.top hframes⟩
  inline := h.inline
  comment := nofun
  repetition := nofun

/-- Which groups have names, where a lookbehind has begun and which groups have been asked about are
not compared. -/
theorem forgetting (h : Alongside F ahead below a r) {names names' : List (List Char × Nat)}
    {lookbehindFrom lookbehindFrom' : Option Nat} {furthestCondition furthestCondition' : Nat} :
    Alongside F ahead below { a with names, lookbehindFrom, furthestCondition }
      { r with names := names', lookbehindFrom := lookbehindFrom',
               furthestCondition := furthestCondition' } :=
  ⟨h.mode, h.groupCount, h.top, h.outer, h.inline, h.comment, h.repetition⟩

theorem openCapture (hF : Correspondence ahead F) (h : Alongside F ahead below a r) :
    Alongside F ahead below a.openCapture r.openCapture := by
  -- the group is counted first, so that both indices are taken from counts `ahead` apart
  have hcounted : Alongside F ahead below { a with groupCount := a.groupCount + 1 }
      { r with groupCount := r.groupCount + 1 } :=
    ⟨h.mode, by have := h.groupCount; show r.groupCount + 1 = a.groupCount + 1 + ahead; omega,
      h.top, h.outer, h.inline, h.comment, h.repetition⟩
  have hopens : FrameKind.Opens ahead (.capture (a.groupCount + 1))
      (.capture (r.groupCount + 1)) := by
    rw [h.groupCount, Nat.add_right_comm]
    exact .capture _
  exact hcounted.enter (hF.opened h.top hopens)

theorem openNamed (hF : Correspondence ahead F) {name : List Char}
    (h : Alongside F ahead below a r) (ha : a.openNamed name = .ok a')
    (hr : r.openNamed name = .ok r') : Alongside F ahead below a' r' := by
  obtain ⟨names, rfl⟩ := Reader.eq_of_openNamed ha
  obtain ⟨names', rfl⟩ := Reader.eq_of_openNamed hr
  have hnamed : Alongside F ahead below { a with names } { r with names := names' } := h.forgetting
  exact hnamed.openCapture hF

theorem openLook (hF : Correspondence ahead F) (h : Alongside F ahead below a r)
    (behind negated : Bool) :
    Alongside F ahead below (a.openLook behind negated) (r.openLook behind negated) := by
  obtain ⟨from_, outermost, hao⟩ := Reader.openLook_eq a behind negated
  obtain ⟨from', outermost', hro⟩ := Reader.openLook_eq r behind negated
  have hlooked : Alongside F ahead below { a with lookbehindFrom := from_ }
      { r with lookbehindFrom := from' } := h.forgetting
  rw [hao, hro]
  exact hlooked.enter (hF.opened h.top (.look behind negated _ _))

theorem openCondition (hF : Correspondence ahead F) {name : List Char}
    (h : Alongside F ahead below a r) (ha : a.openCondition name = .ok a')
    (hr : r.openCondition name = .ok r') : Alongside F ahead below a' r' := by
  obtain ⟨index, furthest, rfl⟩ := Reader.eq_of_openCondition ha
  obtain ⟨index', furthest', rfl⟩ := Reader.eq_of_openCondition hr
  have hasked : Alongside F ahead below { a with furthestCondition := furthest }
      { r with furthestCondition := furthest' } := h.forgetting
  exact hasked.enter (hF.opened h.top (.given _ _))

theorem close (hF : Correspondence ahead F) (h : Alongside F ahead below a r)
    (ha : a.close = .ok a') (hr : r.close = .ok r') : Alongside F ahead below a' r' := by
  obtain ⟨parent, outer, back, hao, hkind, hat, hao', ham, hac, -, hai⟩ := Reader.eq_of_close ha
  obtain ⟨parent', outer', back', hro, -, hrt, hro', hrm, hrc, -, hri⟩ := Reader.eq_of_close hr
  obtain ⟨shared, houter, hframes⟩ := h.outer
  rw [hao] at hframes
  -- a group was open in the pattern itself, so the frame around it lies above `below`
  cases hframes with
  | cons hparent hframes =>
    rename_i parent'' shared
    rw [hro, List.cons_append, List.cons.injEq] at houter
    obtain ⟨rfl, rfl⟩ := houter
    refine ⟨hrm.trans ham.symm, ?_, ?_, ⟨shared, hro', ?_⟩, ?_, ?_, ?_⟩
    · rw [hrc, hac, h.groupCount]
    · rw [hat, hrt]
      exact hF.closed back back' h.top hparent hkind
    · rw [hao']
      exact hframes
    · rw [hri, hai]
      exact h.inline
    · rw [ham]
      nofun
    · rw [ham]
      nofun

theorem text (hF : Correspondence ahead F) {c : Char} (h : Alongside F ahead below a r)
    (ha : a.act (.text c) = .ok a') (hr : r.act (.text c) = .ok r') :
    Alongside F ahead below a' r' := by
  simp only [Reader.act_text] at ha hr
  rw [hF.verbose h.top] at hr
  -- verbose mode is the same for both, so both skip the character, begin a comment or take it
  split_ifs at ha hr with hblank hcomment
  · cases ha
    cases hr
    exact h.go rfl
  · cases ha
    cases hr
    rw [Bool.and_eq_true] at hcomment
    exact ⟨rfl, h.groupCount, h.top, h.outer, h.inline, fun _ => hcomment.1, nofun⟩
  · cases ha
    cases hr
    exact h.push (hF.leaf _ h.top (.literal c.toNat))

theorem nextBranch (hF : Correspondence ahead F) (h : Alongside F ahead below a r)
    (ha : a.nextBranch = .ok a') (hr : r.nextBranch = .ok r') : Alongside F ahead below a' r' := by
  obtain rfl := Reader.eq_of_nextBranch ha
  obtain rfl := Reader.eq_of_nextBranch hr
  exact ⟨rfl, h.groupCount, hF.nextBranch h.top, h.outer, h.inline, nofun, nofun⟩

theorem repeatLast (hF : Correspondence ahead F) {least : Nat} {most : Option Nat}
    (h : Alongside F ahead below a r) (ha : a.repeatLast least most = .ok a')
    (hr : r.repeatLast least most = .ok r') : Alongside F ahead below a' r' := by
  obtain ⟨hitems, rfl⟩ := Reader.eq_of_repeatLast ha
  obtain ⟨hitems', rfl⟩ := Reader.eq_of_repeatLast hr
  refine ⟨rfl, h.groupCount, hF.repeated least most h.top hitems hitems', h.outer, h.inline,
    nofun, ?_⟩
  intro _
  exact ⟨Frame.repeated_items_ne_nil hitems, Frame.repeated_items_ne_nil hitems'⟩

theorem setGreed (hF : Correspondence ahead F) {greed : Greed} (h : Alongside F ahead below a r)
    (ha : a.act (.greed greed) = .ok a') (hr : r.act (.greed greed) = .ok r') :
    Alongside F ahead below a' r' := by
  simp only [Reader.act_greed] at ha hr
  split_ifs at ha hr with hamode hrmode
  · cases ha
    cases hr
    -- right after a repetition both frames have an item whose greed can change
    obtain ⟨hitems, hitems'⟩ := h.repetition hamode
    exact ⟨rfl, h.groupCount, hF.withGreed greed h.top hitems hitems', h.outer, h.inline, nofun,
      nofun⟩
  · cases hr
  · cases ha
  · cases ha

theorem turnOn (hF : Correspondence ahead F) {on : Flags} (h : Alongside F ahead below a r)
    (ha : a.readTurnOn on (.char ')') = .ok a') (hr : r.readTurnOn on (.char ')') = .ok r') :
    Alongside F ahead below a' r' := by
  obtain ⟨-, -, rfl⟩ := Reader.eq_of_turnOn ha
  obtain ⟨-, -, rfl⟩ := Reader.eq_of_turnOn hr
  -- the modes turned on before the pattern stay in front of those it turns on itself
  obtain ⟨before, hinline⟩ := h.inline
  refine ⟨rfl, h.groupCount, hF.turnOn on h.top, h.outer, ⟨before, ?_⟩, nofun, nofun⟩
  rw [← Flags.union_assoc, ← hinline]

/-- Whatever both readers do, they stay side by side. -/
theorem act (hF : Correspondence ahead F) (x : Action) (h : Alongside F ahead below a r)
    (ha : a.act x = .ok a') (hr : r.act x = .ok r') : Alongside F ahead below a' r' := by
  cases x with
  | go mode free =>
    cases ha
    cases hr
    exact h.go free
  | reject cause => cases ha
  | literal code =>
    cases ha
    cases hr
    exact h.push (hF.leaf _ h.top (.literal code))
  | text c => exact h.text hF ha hr
  | set items negated =>
    cases ha
    cases hr
    exact h.push (hF.leaf _ h.top (.set items negated))
  | dot =>
    cases ha
    cases hr
    exact h.push (hF.leaf _ h.top .dot)
  | place which =>
    cases ha
    cases hr
    exact h.push (hF.leaf _ h.top (.place which))
  | refer index =>
    obtain rfl := Reader.eq_of_refer ha
    obtain rfl := Reader.eq_of_refer hr
    exact h.push (hF.backref _ _ h.top)
  | referNamed name =>
    obtain ⟨index, rfl⟩ := Reader.eq_of_referNamed ha
    obtain ⟨index', rfl⟩ := Reader.eq_of_referNamed hr
    exact h.push (hF.backref _ _ h.top)
  | capture =>
    cases ha
    cases hr
    exact h.openCapture hF
  | named name => exact h.openNamed hF ha hr
  | plain =>
    cases ha
    cases hr
    exact h.enter (hF.opened h.top .plain)
  | atomic =>
    cases ha
    cases hr
    exact h.enter (hF.opened h.top .atomic)
  | scope on off =>
    cases ha
    cases hr
    exact h.enter (hF.scope on off h.top)
  | look behind negated =>
    cases ha
    cases hr
    exact h.openLook hF behind negated
  | condition name => exact h.openCondition hF ha hr
  | branch => exact h.nextBranch hF ha hr
  | close => exact h.close hF ha hr
  | loop least most => exact h.repeatLast hF ha hr
  | greed greed => exact h.setGreed hF ha hr
  | turnOn on => exact h.turnOn hF ha hr

theorem play (hF : Correspondence ahead F) {acts : List Action} (h : Alongside F ahead below a r)
    (ha : a.play acts = .ok a') (hr : r.play acts = .ok r') : Alongside F ahead below a' r' :=
  Reader.play_induction₂ (fun _ _ x _ _ h ha hr => h.act hF x ha hr) h ha hr

theorem step (hF : Correspondence ahead F) {t : Token} (h : Alongside F ahead below a r)
    (ha : a.step t = .ok a') (hr : r.step t = .ok r') : Alongside F ahead below a' r' := by
  obtain ⟨acts, hacts⟩ := Reader.step_isPlayed a.mode t
  rw [hacts a rfl] at ha
  rw [hacts r h.mode] at hr
  exact h.play hF ha hr

/-- Two readings of the same tokens stay side by side. -/
theorem read (hF : Correspondence ahead F) {tokens : List Token} (h : Alongside F ahead below a r)
    (ha : a.read tokens = .ok a') (hr : r.read tokens = .ok r') :
    Alongside F ahead below a' r' := by
  induction tokens generalizing a r with
  | nil =>
    cases ha
    cases hr
    exact h
  | cons t rest ih =>
    obtain ⟨a₁, hat, ha⟩ := Reader.read_cons.mp ha
    obtain ⟨r₁, hrt, hr⟩ := Reader.read_cons.mp hr
    exact ih (h.step hF hat hrt) ha hr

theorem settle (hF : Correspondence ahead F) (h : Alongside F ahead below a r)
    (ha : a.settle = .ok a') (hr : r.settle = .ok r') : Alongside F ahead below a' r' := by
  obtain ⟨acts, hacts⟩ := Reader.settle_isPlayed a.mode
  rw [hacts a rfl] at ha
  rw [hacts r h.mode] at hr
  exact h.play hF ha hr

/-- Where one pattern ends, the other goes on with an escaped line feed. -/
theorem lineFeed (hF : Correspondence ahead F) (h : Alongside F ahead below a r)
    (hcomment : a.mode ≠ .comment) (ha : a.settle = .ok a')
    (hr : r.step (.escape 'n') = .ok r') :
    ∃ settled, Alongside F ahead below a' settled ∧ r' = settled.literal 10 := by
  rcases Reader.step_lineFeed hcomment with ⟨cause, hfails⟩ | hstep
  · rw [hfails a rfl] at ha
    cases ha
  · rw [hstep r h.mode] at hr
    cases hs : r.settle with
    | error cause => rw [hs] at hr; cases hr
    | ok settled =>
      rw [hs] at hr
      exact ⟨settled, h.settle hF ha hs, (Except.ok.inj hr).symm⟩

/-- A pattern begins where another reader is ready for an item. -/
theorem start (given : Flags) (hmode : r.mode = .ready) (hF : F (Reader.start given).top r.top) :
    Alongside F r.groupCount r.outer (Reader.start given) r where
  mode := hmode
  groupCount := (Nat.zero_add _).symm
  top := hF
  outer := ⟨[], rfl, .nil⟩
  inline := ⟨r.inline, (Flags.union_plain r.inline).symm⟩
  comment := nofun
  repetition := nofun

/-- Once the pattern by itself is closed, the other reader is back in the frame it began in. -/
theorem outer_eq (h : Alongside F ahead below a r) (ha : a.outer = []) : r.outer = below := by
  obtain ⟨shared, houter, hframes⟩ := h.outer
  rw [ha] at hframes
  cases hframes
  exact houter

end Alongside

end ProblemMatcher.Regex
