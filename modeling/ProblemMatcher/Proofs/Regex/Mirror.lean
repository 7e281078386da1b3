import ProblemMatcher.Proofs.Regex.Form
import ProblemMatcher.Proofs.Regex.Parallel

/-!
# A pattern means the same inside a longer one

Two readings of the same tokens put trees of the same form into their frames, provided the modes
that trees depend on are the same. Only the frame of the whole pattern holds more in the longer
reading: the items read before. Places, references and what looks around are left aside, since they
do depend on more than the tokens.

1. `Mirrors`: frames that hold the same, up to the numbers of groups and to items before.
2. `mirrors_correspondence`: both readings keep it.
-/

namespace ProblemMatcher.Regex

/-! ## Modes -/

namespace Flags

/-- The modes that a tree without places depends on. -/
structure Alike (a b : Flags) : Prop where
  verbose : b.verbose = a.verbose
  ignoreCase : b.ignoreCase = a.ignoreCase
  dotAll : b.dotAll = a.dotAll
  ascii : b.ascii = a.ascii

variable {a b : Flags}

theorem Alike.union (h : Alike a b) (on : Flags) : Alike (a.union on) (b.union on) where
  verbose := by rw [Flags.union, Flags.union, h.verbose]
  ignoreCase := by rw [Flags.union, Flags.union, h.ignoreCase]
  dotAll := by rw [Flags.union, Flags.union, h.dotAll]
  ascii := by rw [Flags.union, Flags.union, h.ascii]

theorem Alike.trans {c : Flags} (h : Alike a b) (h' : Alike b c) : Alike a c where
  verbose := h'.verbose.trans h.verbose
  ignoreCase := h'.ignoreCase.trans h.ignoreCase
  dotAll := h'.dotAll.trans h.dotAll
  ascii := h'.ascii.trans h.ascii

/-- Modes that are off together are off in each part. -/
theorem Alike.of_union (h : Alike plain (a.union b)) : Alike plain a ∧ Alike plain b := by
  have hverbose := Bool.or_eq_false_iff.mp h.verbose
  have hignoreCase := Bool.or_eq_false_iff.mp h.ignoreCase
  have hdotAll := Bool.or_eq_false_iff.mp h.dotAll
  have hascii := Bool.or_eq_false_iff.mp h.ascii
  exact ⟨⟨hverbose.1, hignoreCase.1, hdotAll.1, hascii.1⟩,
    ⟨hverbose.2, hignoreCase.2, hdotAll.2, hascii.2⟩⟩

theorem Alike.within (h : Alike a b) (on off : Flags) :
    Alike (a.within on off) (b.within on off) := by
  have hwithout : ∀ {a b : Flags}, Alike a b → Alike (a.without off) (b.without off) := by
    intro a b h
    exact ⟨by rw [without, without, h.verbose], by rw [without, without, h.ignoreCase],
      by rw [without, without, h.dotAll], by rw [without, without, h.ascii]⟩
  have hbase : Alike { a with ascii := false, unicode := false }
      { b with ascii := false, unicode := false } :=
    ⟨h.verbose, h.ignoreCase, h.dotAll, rfl⟩
  unfold Flags.within
  split_ifs
  · exact hwithout (hbase.union on)
  · exact hwithout (h.union on)

end Flags

/-! ## Frames -/

/-- Closing a frame of this kind puts what looks around into the frame around it. -/
def FrameKind.looks : FrameKind → Bool
  | .look _ _ _ | .given _ _ => true
  | _ => false

theorem FrameKind.looks_form (kind : FrameKind) : kind.form.looks = kind.looks := by
  cases kind <;> rfl

namespace Frame

/-- Nothing in the frame looks around, and a frame of a whole pattern has one branch only. -/
structure IsBlind (g : Frame) : Prop where
  looks : g.kind.looks = false
  branches : ∀ branch ∈ g.branches, branch.all Node.isBlind = true
  items : g.items.all Node.isBlind = true
  whole : g.kind = .whole → g.branches = []

theorem branch_form (f : Frame) :
    f.branch.map Node.form = (f.items.map Node.form).reverse.flatMap Node.items := by
  rw [branch, List.map_flatMap, ← List.map_reverse, List.flatMap_map]
  simp only [Node.form_items]

theorem isBlind_branch {f : Frame} (h : f.branch.all Node.isBlind = true) :
    f.items.all Node.isBlind = true := by
  rw [branch, List.all_flatMap, List.all_reverse] at h
  rw [← h]
  congr 1
  funext node
  exact (Node.isConjunctive_isBlind.items node).symm

/-- A frame whose body is blind is blind. -/
theorem isBlind_of_body {f : Frame} (hlooks : f.kind.looks = false) (hkind : f.kind ≠ .whole)
    (h : f.body.isBlind = true) : f.IsBlind := by
  have hall := Node.isBlind_of_choice h
  refine ⟨hlooks, fun branch hbranch => hall branch ?_, isBlind_branch (hall f.branch ?_),
    fun hwhole => absurd hwhole hkind⟩
  · rw [List.mem_reverse]
    exact List.mem_cons_of_mem _ hbranch
  · rw [List.mem_reverse]
    exact List.mem_cons_self

theorem IsBlind.of_push {f : Frame} {node : Node} {last : LastItem}
    (h : (f.push node last).IsBlind) : f.IsBlind ∧ node.isBlind = true := by
  have hitems : (node :: f.items).all Node.isBlind = true := h.items
  rw [List.all_cons, Bool.and_eq_true] at hitems
  exact ⟨⟨h.looks, h.branches, hitems.2, h.whole⟩, hitems.1⟩

end Frame

/-- The items before, which only the frame of the whole pattern holds. -/
def Frame.before (g : Frame) (before : List Node) : List Node :=
  if g.kind = .whole then before else []

/-- The second frame holds what the first one holds, and `before` in front of it if it is that of
the whole pattern. -/
structure Mirrors (before : List Node) (g f : Frame) : Prop where
  kind : f.kind.form = g.kind.form
  flags : g.flags.Alike f.flags
  content : g.IsBlind →
    f.branches.map (·.map Node.form) = g.branches.map (·.map Node.form) ∧
      f.items.map Node.form = g.items.map Node.form ++ g.before before

/-! ## Both readings do the same -/

variable {before : List Node} {g f : Frame}

theorem Mirrors.push (h : Mirrors before g f) {node node' : Node}
    (hnode : node.isBlind = true → node'.form = node.form) (last : LastItem) :
    Mirrors before (g.push node last) (f.push node' last) where
  kind := h.kind
  flags := h.flags
  content hblind := by
    obtain ⟨hg, hn⟩ := hblind.of_push
    obtain ⟨hbranches, hitems⟩ := h.content hg
    refine ⟨hbranches, ?_⟩
    show node'.form :: f.items.map Node.form = node.form :: g.items.map Node.form ++ _
    rw [hnode hn, hitems]
    rfl

theorem Frame.rule_of_alike {g f : Frame} (h : g.flags.Alike f.flags) : f.rule = g.rule := by
  rw [Frame.rule, Frame.rule, h.ignoreCase, h.ascii]

theorem Mirrors.rule (h : Mirrors before g f) : f.rule = g.rule :=
  Frame.rule_of_alike h.flags

theorem mirrors_fresh {kind kind' : FrameKind} {flags flags' : Flags}
    (hkind : kind'.form = kind.form) (hwhole : kind ≠ .whole) (hflags : flags.Alike flags') :
    Mirrors before { kind, flags } { kind := kind', flags := flags' } where
  kind := hkind
  flags := hflags
  content _ := ⟨rfl, by rw [Frame.before, if_neg hwhole]; rfl⟩

/-- Inside a group there is nothing before. -/
theorem Mirrors.body_form (h : Mirrors before g f) (hwhole : g.kind ≠ .whole) (hg : g.IsBlind) :
    f.body.form = g.body.form := by
  obtain ⟨hbranches, hitems⟩ := h.content hg
  rw [Frame.before, if_neg hwhole, List.append_nil] at hitems
  rw [Frame.body, Frame.body, Node.form_choice, Node.form_choice, List.map_reverse,
    List.map_reverse, List.map_cons, List.map_cons, hbranches, Frame.branch_form,
    Frame.branch_form, hitems]

theorem Mirrors.closed_form (h : Mirrors before g f) (hwhole : g.kind ≠ .whole) {back back' : Nat}
    (hblind : (g.closed back).isBlind = true) : (f.closed back').form = (g.closed back).form := by
  have hkind := h.kind
  have hbody : g.kind.looks = false → g.body.isBlind = true → f.body.form = g.body.form :=
    fun hlooks hg => h.body_form hwhole (Frame.isBlind_of_body hlooks hwhole hg)
  unfold Frame.closed at *
  -- the kinds agree but for what they number, so each kind is compared with itself
  cases hg : g.kind with
  | whole => exact absurd hg hwhole
  | capture index =>
    rw [hg] at hkind hblind hbody
    cases hf : f.kind with
    | capture index' => exact congrArg (Node.group 0) (hbody rfl hblind)
    | _ => rw [hf] at hkind; cases hkind
  | plain =>
    rw [hg] at hkind hblind hbody
    cases hf : f.kind with
    | plain => exact hbody rfl hblind
    | _ => rw [hf] at hkind; cases hkind
  | scope =>
    rw [hg] at hkind hblind hbody
    cases hf : f.kind with
    | scope => exact congrArg Node.scope (hbody rfl hblind)
    | _ => rw [hf] at hkind; cases hkind
  | atomic =>
    rw [hg] at hkind hblind hbody
    cases hf : f.kind with
    | atomic => exact congrArg Node.atomic (hbody rfl hblind)
    | _ => rw [hf] at hkind; cases hkind
  | look behind negated outermost =>
    rw [hg] at hblind
    cases behind <;> cases hblind
  | given index yes =>
    rw [hg] at hblind
    cases yes <;> cases hblind

theorem Frame.nextBranch_of_looks (h : f.kind.looks = false) :
    f.nextBranch =
      { f with branches := f.branch :: f.branches, items := [], last := .nothing } := by
  unfold Frame.nextBranch
  split
  · rename_i index hkind
    rw [hkind] at h
    cases h
  · rfl

theorem Frame.form_nextBranch (f : Frame) : f.nextBranch.kind.form = f.kind.form := by
  unfold Frame.nextBranch
  split
  · rename_i index hkind
    rw [hkind]
    rfl
  · rfl

theorem Frame.looks_nextBranch (f : Frame) : f.nextBranch.kind.looks = f.kind.looks := by
  rw [← FrameKind.looks_form, Frame.form_nextBranch, FrameKind.looks_form]

theorem Frame.isBlind_of_nextBranch (h : g.nextBranch.IsBlind) :
    g.IsBlind ∧ g.kind ≠ .whole := by
  have hlooks : g.kind.looks = false := (Frame.looks_nextBranch g).symm.trans h.looks
  rw [Frame.nextBranch_of_looks hlooks] at h
  have hwhole : g.kind ≠ .whole := fun hkind => List.cons_ne_nil _ _ (h.whole hkind)
  have hbranches : ∀ branch ∈ g.branch :: g.branches, branch.all Node.isBlind = true := h.branches
  refine ⟨⟨hlooks, fun branch hbranch => hbranches branch (List.mem_cons_of_mem _ hbranch), ?_,
    fun hkind => absurd hkind hwhole⟩, hwhole⟩
  exact Frame.isBlind_branch (hbranches g.branch List.mem_cons_self)

theorem Mirrors.nextBranch (h : Mirrors before g f) :
    Mirrors before g.nextBranch f.nextBranch where
  kind := by rw [Frame.form_nextBranch, Frame.form_nextBranch, h.kind]
  flags := by
    rw [Frame.nextBranch_flags, Frame.nextBranch_flags]
    exact h.flags
  content hblind := by
    obtain ⟨hg, hwhole⟩ := Frame.isBlind_of_nextBranch hblind
    obtain ⟨hbranches, hitems⟩ := h.content hg
    have hlooks : f.kind.looks = false := by
      rw [← FrameKind.looks_form, h.kind, FrameKind.looks_form, hg.looks]
    rw [Frame.before, if_neg hwhole, List.append_nil] at hitems
    rw [Frame.nextBranch_of_looks hg.looks, Frame.nextBranch_of_looks hlooks]
    refine ⟨?_, ?_⟩
    · rw [List.map_cons, List.map_cons, hbranches, Frame.branch_form, Frame.branch_form, hitems]
    · rw [Frame.before, if_neg hwhole]
      rfl

/-- What changes the last item in the same way changes its form in the same way. -/
theorem Mirrors.mapLast (h : Mirrors before g f) (change : Node → Node)
    (hform : ∀ node, (change node).form = change node.form)
    (hblind : ∀ node, (change node).isBlind = node.isBlind)
    {node node' : Node} {items items' : List Node} (hg : g.items = node :: items)
    (hf : f.items = node' :: items') (last last' : LastItem) :
    Mirrors before { g with items := change node :: items, last }
      { f with items := change node' :: items', last := last' } where
  kind := h.kind
  flags := h.flags
  content hchanged := by
    have hitems : (change node :: items).all Node.isBlind = true := hchanged.items
    rw [List.all_cons, hblind, ← List.all_cons, ← hg] at hitems
    obtain ⟨hbranches, hcontent⟩ := h.content
      ⟨hchanged.looks, hchanged.branches, hitems, hchanged.whole⟩
    rw [hg, hf, List.map_cons, List.map_cons, List.cons_append, List.cons.injEq] at hcontent
    refine ⟨hbranches, ?_⟩
    show (change node').form :: items'.map Node.form =
      (change node).form :: items.map Node.form ++ _
    rw [hform, hform, hcontent.1, hcontent.2]
    rfl

theorem Mirrors.repeated (h : Mirrors before g f) (least : Nat) (most : Option Nat)
    (hg : g.items ≠ []) (hf : f.items ≠ []) :
    Mirrors before (g.repeated least most) (f.repeated least most) := by
  obtain ⟨node, items, hg⟩ := List.exists_cons_of_ne_nil hg
  obtain ⟨node', items', hf⟩ := List.exists_cons_of_ne_nil hf
  rw [Frame.repeated, Frame.repeated, hg, hf]
  exact h.mapLast (.loop least most .greedy) (fun _ => rfl) (fun _ => rfl) hg hf _ _

theorem Node.width_withGreed (groups : Nat → Width) (greed : Greed) (node : Node) :
    (node.withGreed greed).width groups = node.width groups := by
  cases node <;> rfl

theorem Mirrors.withGreed (h : Mirrors before g f) (greed : Greed) (hg : g.items ≠ [])
    (hf : f.items ≠ []) : Mirrors before (g.withGreed greed) (f.withGreed greed) := by
  obtain ⟨node, items, hg⟩ := List.exists_cons_of_ne_nil hg
  obtain ⟨node', items', hf⟩ := List.exists_cons_of_ne_nil hf
  rw [Frame.withGreed_cons hg, Frame.withGreed_cons hf]
  refine h.mapLast (.withGreed greed) (fun node => ?_) (fun node => ?_) hg hf _ _
  · cases node <;> rfl
  · cases node <;> rfl

theorem mirrors_correspondence (before : List Node) {ahead : Nat} :
    Correspondence ahead (Mirrors before) where
  verbose h := h.flags.verbose
  leaf {g f leaf} last h hleaf := by
    refine h.push (fun hblind => ?_) last
    cases hleaf with
    | literal code =>
      show Node.one (.ofCode code f.rule) = .one (.ofCode code g.rule)
      rw [h.rule]
    | set items negated =>
      show Node.one { items, negated, rule := f.rule, ascii := f.flags.ascii } =
        .one { items, negated, rule := g.rule, ascii := g.flags.ascii }
      rw [h.rule, h.flags.ascii]
    | dot =>
      show Node.one (if f.flags.dotAll then .all else .notLineFeed) =
        .one (if g.flags.dotAll then .all else .notLineFeed)
      rw [h.flags.dotAll]
    -- a place depends on multiline mode as well, and is left aside
    | place which => exact absurd hblind Bool.false_ne_true
  backref _ _ h := by
    refine h.push (fun hblind => ?_) .item
    cases hblind
  opened h hopens := mirrors_fresh hopens.form_eq hopens.ne_whole h.flags
  scope on off h := mirrors_fresh rfl nofun (h.flags.within on off)
  nextBranch h := h.nextBranch
  closed _ _ h hparent hwhole := hparent.push (h.closed_form hwhole) .item
  repeated least most h hg hf := h.repeated least most hg hf
  withGreed greed h hg hf := h.withGreed greed hg hf
  turnOn on h := ⟨h.kind, h.flags.union on, fun hg => h.content ⟨hg.looks, hg.branches, hg.items,
    hg.whole⟩⟩

end ProblemMatcher.Regex
