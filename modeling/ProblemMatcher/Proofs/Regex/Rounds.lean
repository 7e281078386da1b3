import ProblemMatcher.Proofs.Regex.Ways

/-!
# Groups in the rounds of a repetition

A group keeps what it captured in one round of a repetition until another round passes it. So after
the last round each group inside the repetition has been captured in that round or in an earlier
one, and a group that every way through a round passes has been captured in the last.

1. `Way.traverses`: on a way through a tree, each group of the tree is captured there or stays as it
   was.
2. `Way.endsRound`: what one round does to the groups; `Way.isLastRound`: what all rounds do.
3. `Trails`: a repetition that ends a pattern, with only lower groups before it and beside it.
4. `Trails.isLastRound_of_matchAt`: the groups of a match of such a pattern.
-/

namespace ProblemMatcher.Regex

/-! ## Marks -/

namespace Marks

variable {m : Marks} {group index pos : Nat}

theorem getD_set (m : Marks) (index pos i : Nat) :
    (m.set index pos).places.getD i none =
      if i = index then some pos else m.places.getD i none := by
  unfold set
  dsimp only
  split_ifs with h hi hi
  · simp [hi, h]
  · simp [Ne.symm hi]
  · subst hi
    simp
    grind
  · simp
    grind

theorem getD_of_count_le {i : Nat} (h : m.count ≤ i) : m.places.getD i none = none := by
  unfold count at h
  simp
  grind

theorem count_set (m : Marks) (index pos : Nat) :
    (m.set index pos).count = max m.count (index + 1) := by
  unfold set count
  split_ifs with h
  · simp
    omega
  · simp
    omega

/-- Entering a group changes where that group was entered, and nothing else. -/
theorem entered?_enter (hindex : 1 ≤ index) (hgroup : 1 ≤ group) :
    (m.set (2 * (index - 1)) pos).entered? group =
      if group = index then some pos else m.entered? group := by
  unfold entered?
  rw [getD_set]
  by_cases h : group = index
  · rw [if_pos (by omega), if_pos h]
  · rw [if_neg (by omega), if_neg h]

theorem left?_enter : (m.set (2 * (index - 1)) pos).left? group = m.left? group := by
  unfold left?
  rw [getD_set, if_neg (by omega)]

theorem entered?_leave : (m.set (2 * (index - 1) + 1) pos).entered? group = m.entered? group := by
  unfold entered?
  rw [getD_set, if_neg (by omega)]

theorem left?_leave (hindex : 1 ≤ index) (hgroup : 1 ≤ group) :
    (m.set (2 * (index - 1) + 1) pos).left? group =
      if group = index then some pos else m.left? group := by
  unfold left?
  rw [getD_set]
  by_cases h : group = index
  · rw [if_pos (by omega), if_pos h]
  · rw [if_neg (by omega), if_neg h]

theorem span?_eq_some {start stop : Nat} :
    m.span? group = some (start, stop) ↔
      m.entered? group = some start ∧ m.left? group = some stop ∧ start ≤ stop := by
  unfold span?
  constructor
  · intro h
    split at h
    · rename_i a b hentered hleft
      split_ifs at h with hle
      cases h
      exact ⟨hentered, hleft, hle⟩
    · cases h
  · rintro ⟨hentered, hleft, hle⟩
    rw [hentered, hleft]
    exact if_pos hle

/-- A group behind the furthest mark has no span. -/
theorem span?_of_count_le {limit : Nat} (h : m.count ≤ 2 * (limit - 1)) (hgroup : limit ≤ group) :
    m.span? group = none := by
  unfold span? entered?
  rw [getD_of_count_le (by omega)]

/-- The group was captured between the two places. -/
def Captures (m : Marks) (group low high : Nat) : Prop :=
  ∃ start stop, m.span? group = some (start, stop) ∧ low ≤ start ∧ stop ≤ high

theorem Captures.mono {low high low' high' : Nat} (h : m.Captures group low high)
    (hlow : low' ≤ low) (hhigh : high ≤ high') : m.Captures group low' high' := by
  obtain ⟨start, stop, hspan, hstart, hstop⟩ := h
  exact ⟨start, stop, hspan, Nat.le_trans hlow hstart, Nat.le_trans hstop hhigh⟩

/-- The group stands in both as it stands in the other. -/
def Agrees (group : Nat) (m m' : Marks) : Prop :=
  m'.entered? group = m.entered? group ∧ m'.left? group = m.left? group

variable {m' m'' : Marks}

theorem Agrees.trans (h : Agrees group m m') (h' : Agrees group m' m'') : Agrees group m m'' :=
  ⟨h'.1.trans h.1, h'.2.trans h.2⟩

theorem Agrees.span?_eq (h : Agrees group m m') : m'.span? group = m.span? group := by
  unfold span?
  rw [h.1, h.2]

theorem Captures.of_agrees {low high : Nat} (h : m.Captures group low high)
    (hagrees : Agrees group m m') : m'.Captures group low high := by
  obtain ⟨start, stop, hspan, hplaces⟩ := h
  exact ⟨start, stop, hagrees.span?_eq.trans hspan, hplaces⟩

theorem agrees_enter (hindex : 1 ≤ index) (hgroup : 1 ≤ group) (hne : group ≠ index) :
    Agrees group m (m.set (2 * (index - 1)) pos) :=
  ⟨by rw [entered?_enter hindex hgroup, if_neg hne], left?_enter⟩

theorem agrees_leave (hindex : 1 ≤ index) (hgroup : 1 ≤ group) (hne : group ≠ index) :
    Agrees group m (m.set (2 * (index - 1) + 1) pos) :=
  ⟨entered?_leave, by rw [left?_leave hindex hgroup, if_neg hne]⟩

end Marks

/-! ## One way through a tree -/

/-- On the way from a place and marks to others, each group in `may` is captured or stays as it was,
and those that hold of `must` are captured. -/
structure Traverses (must : Nat → Bool) (may : List Nat) (p : Nat) (m : Marks) (q : Nat)
    (n : Marks) : Prop where
  le : p ≤ q
  group : ∀ g, 1 ≤ g → g ∈ may ∧ n.Captures g p q ∨ must g = false ∧ Marks.Agrees g m n

namespace Traverses

variable {must must' : Nat → Bool} {may may' : List Nat} {p p₁ p₂ q : Nat} {m m₁ m₂ n : Marks}

theorem refl (h : p ≤ q) (m : Marks) (may : List Nat) :
    Traverses (fun _ => false) may p m q m where
  le := h
  group _ _ := Or.inr ⟨rfl, rfl, rfl⟩

theorem mono (h : Traverses must may p m q n) (hmust : ∀ g, must g = false → must' g = false)
    (hmay : ∀ g ∈ may, g ∈ may') : Traverses must' may' p m q n where
  le := h.le
  group g hg := (h.group g hg).imp (And.imp_left (hmay g)) (And.imp_left (hmust g))

/-- The second way captures a group again or leaves it as the first one did. -/
theorem trans (h : Traverses must may p m p₁ m₁) (h' : Traverses must' may' p₁ m₁ p₂ m₂) :
    Traverses (fun g => must g || must' g) (may ++ may') p m p₂ m₂ where
  le := Nat.le_trans h.le h'.le
  group g hg := by
    -- the second way decides; where it leaves the group alone, the first one does
    rcases h'.group g hg with ⟨hmay, hcaptures⟩ | ⟨hmust', hagrees'⟩
    · exact Or.inl ⟨List.mem_append_right _ hmay, hcaptures.mono h.le (Nat.le_refl _)⟩
    · rcases h.group g hg with ⟨hmay, hcaptures⟩ | ⟨hmust, hagrees⟩
      · exact Or.inl ⟨List.mem_append_left _ hmay,
          (hcaptures.of_agrees hagrees').mono (Nat.le_refl _) h'.le⟩
      · exact Or.inr ⟨Bool.or_eq_false_iff.mpr ⟨hmust, hmust'⟩, hagrees.trans hagrees'⟩

/-- A group is entered before the way and left behind it. -/
theorem enclose {index : Nat} (hindex : 1 ≤ index)
    (h : Traverses must may p (m.set (2 * (index - 1)) p) q n) :
    Traverses (fun g => index == g || must g) (index :: may) p m q
      (n.set (2 * (index - 1) + 1) q) where
  le := h.le
  group g hg := by
    by_cases hne : g = index
    · subst hne
      -- the way inside may have entered the group again
      have hentered : ∃ start, n.entered? g = some start ∧ p ≤ start ∧ start ≤ q := by
        rcases h.group g hg with ⟨-, start, stop, hspan, hstart, hstop⟩ | ⟨-, hagrees⟩
        · obtain ⟨hentered, -, hle⟩ := Marks.span?_eq_some.mp hspan
          exact ⟨start, hentered, hstart, Nat.le_trans hle hstop⟩
        · refine ⟨p, ?_, Nat.le_refl p, h.le⟩
          rw [hagrees.1, Marks.entered?_enter hg hg, if_pos rfl]
      obtain ⟨start, hentered, hstart, hle⟩ := hentered
      refine Or.inl ⟨List.mem_cons_self, start, q, ?_, hstart, Nat.le_refl q⟩
      refine Marks.span?_eq_some.mpr ⟨?_, ?_, hle⟩
      · rw [Marks.entered?_leave, hentered]
      · rw [Marks.left?_leave hg hg, if_pos rfl]
    · have hleave : Marks.Agrees g n (n.set (2 * (index - 1) + 1) q) :=
        Marks.agrees_leave hindex hg hne
      rcases h.group g hg with ⟨hmay, hcaptures⟩ | ⟨hmust, hagrees⟩
      · exact Or.inl ⟨List.mem_cons_of_mem _ hmay, hcaptures.of_agrees hleave⟩
      · refine Or.inr ⟨?_, ((Marks.agrees_enter hindex hg hne).trans hagrees).trans hleave⟩
        rw [hmust, Bool.or_false, beq_eq_false_iff_ne]
        exact Ne.symm hne

end Traverses

/-- **A way through a tree, inside a round.** If nothing in the tree looks around, the way goes
forward, captures each group that all ways pass, and either captures another group of the tree or
leaves it alone. -/
theorem Way.traverses {r : Bool} {node : Node} {p q : Nat} {m n : Marks} (h : Way r node p m q n)
    (hround : r = true) (hlook : node.looksAround = false) (hgroups : ∀ g ∈ node.groups, 1 ≤ g) :
    Traverses (fun g => node.passes g) node.groups p m q n := by
  induction h with
  | empty | place => exact .refl (Nat.le_refl _) _ _
  | one => exact .refl (Nat.le_succ _) _ _
  | backref hle => exact .refl hle _ _
  | seq _ _ ih₁ ih₂ =>
    rw [Node.looksAround, Bool.or_eq_false_iff] at hlook
    rw [Node.groups, List.forall_mem_append] at hgroups
    exact (ih₁ hround hlook.1 hgroups.1).trans (ih₂ hround hlook.2 hgroups.2)
  | first _ ih | yes _ ih =>
    rw [Node.looksAround, Bool.or_eq_false_iff] at hlook
    rw [Node.groups, List.forall_mem_append] at hgroups
    refine (ih hround hlook.1 hgroups.1).mono (fun g hg => ?_) (fun g => List.mem_append_left _)
    exact Bool.and_eq_false_iff.mpr (Or.inl hg)
  | no _ ih =>
    rw [Node.looksAround, Bool.or_eq_false_iff] at hlook
    rw [Node.groups, List.forall_mem_append] at hgroups
    refine (ih hround hlook.2 hgroups.2).mono (fun g hg => ?_) (fun g => List.mem_append_right _)
    exact Bool.and_eq_false_iff.mpr (Or.inr hg)
  | rest hunsettled _ ih =>
    subst hround
    obtain rfl := hunsettled.eq
    rw [Node.looksAround, Bool.or_eq_false_iff] at hlook
    rw [Node.groups, List.forall_mem_append] at hgroups
    refine (ih rfl hlook.2 hgroups.2).mono (fun g hg => ?_) (fun g => List.mem_append_right _)
    exact Bool.and_eq_false_iff.mpr (Or.inr hg)
  | group _ ih =>
    rw [Node.groups, List.forall_mem_cons] at hgroups
    exact (ih hround hlook hgroups.2).enclose hgroups.1
  | scope _ ih | atomic _ ih => exact ih hround hlook hgroups
  -- nothing looks around
  | seen | unseen => cases hlook
  -- inside a round, failed ways leave the marks as they were
  | chars hset hle hunsettled =>
    subst hround
    obtain rfl := hunsettled.eq
    refine (Traverses.refl hle _ _).mono (fun g _ => ?_) (fun g => id)
    rw [Node.passes, Node.passes_of_set? hset, Bool.and_false]
  | enough => exact .refl (Nat.le_refl _) _ _
  | round _ _ ih₁ ih₂ =>
    subst hround
    refine ((ih₁ rfl hlook hgroups).trans (ih₂ rfl hlook hgroups)).mono (fun g hg => ?_) ?_
    · rw [Node.passes, (Bool.or_eq_false_iff.mp hg).1, Bool.and_false]
    · exact fun g hg => (List.mem_append.mp hg).elim id id
  | again hunsettled _ ih =>
    subst hround
    obtain rfl := hunsettled.eq
    exact ih rfl hlook hgroups
  | left hle =>
    rw [Node.looksAround] at hlook
    exact .refl (hle.resolve_left (hlook ▸ Bool.false_ne_true)) _ _

/-! ## The rounds of a group -/

/-- The last round of the wrapper group began at `first` and ended at `p`. Each group inside that
has a span was captured in this round or in an earlier one, and each group that all ways pass was
captured in this one. -/
structure IsLastRound (wrapper : Nat) (body : Node) (first p : Nat) (m : Marks) : Prop where
  round : m.span? wrapper = some (first, p)
  captured : ∀ g, wrapper < g → ∀ start stop, m.span? g = some (start, stop) →
    first ≤ start ∧ stop ≤ p ∨ stop ≤ first
  passed : ∀ g, wrapper < g → body.passes g = true → m.Captures g first p

section

variable {r : Bool} {wrapper least p q : Nat} {body : Node} {m n : Marks}

/-- One round, before which no group inside was captured further on. -/
theorem Way.endsRound (h : Way true (.group wrapper body) p m q n) (hwrapper : 1 ≤ wrapper)
    (hlook : body.looksAround = false) (hgroups : ∀ g ∈ body.groups, wrapper < g)
    (hbefore : ∀ g, wrapper < g → ∀ start stop, m.span? g = some (start, stop) → stop ≤ p) :
    IsLastRound wrapper body p q n := by
  cases h with
  | @group _ _ _ _ _ _ n hbody =>
    have htraverses := hbody.traverses rfl hlook fun g hg => Nat.le_trans hwrapper (hgroups g hg).le
    have hothers : ∀ g, wrapper < g → Marks.Captures n g p q ∨
        body.passes g = false ∧ Marks.Agrees g m (n.set (2 * (wrapper - 1) + 1) q) := by
      intro g hg
      have hpos : 1 ≤ g := Nat.le_trans hwrapper hg.le
      rcases htraverses.group g hpos with ⟨-, hcaptures⟩ | ⟨hpasses, hagrees⟩
      · exact Or.inl hcaptures
      · exact Or.inr ⟨hpasses, ((Marks.agrees_enter hwrapper hpos hg.ne').trans hagrees).trans
          (Marks.agrees_leave hwrapper hpos hg.ne')⟩
    have hleave : ∀ g, wrapper < g → Marks.Agrees g n (n.set (2 * (wrapper - 1) + 1) q) :=
      fun g hg => Marks.agrees_leave hwrapper (Nat.le_trans hwrapper hg.le) hg.ne'
    refine ⟨?_, ?_, ?_⟩
    · -- the wrapper is not inside itself, so it has the place where this round entered it
      rcases htraverses.group wrapper hwrapper with ⟨hmem, -⟩ | ⟨-, hagrees⟩
      · exact absurd (hgroups wrapper hmem) (Nat.lt_irrefl wrapper)
      · refine Marks.span?_eq_some.mpr ⟨?_, ?_, htraverses.le⟩
        · rw [Marks.entered?_leave, hagrees.1, Marks.entered?_enter hwrapper hwrapper, if_pos rfl]
        · rw [Marks.left?_leave hwrapper hwrapper, if_pos rfl]
    · intro g hg start stop hspan
      rcases hothers g hg with ⟨start', stop', hspan', hstart, hstop⟩ | ⟨-, hagrees⟩
      · rw [(hleave g hg).span?_eq, hspan'] at hspan
        cases hspan
        exact Or.inl ⟨hstart, hstop⟩
      · rw [hagrees.span?_eq] at hspan
        exact Or.inr (hbefore g hg start stop hspan)
    · intro g hg hpasses
      rcases hothers g hg with hcaptures | ⟨hfalse, -⟩
      · exact hcaptures.of_agrees (hleave g hg)
      · rw [hpasses] at hfalse
        cases hfalse

/-- What was captured in the last round or before it was captured before the next round. -/
theorem IsLastRound.stop_le {first : Nat} (h : IsLastRound wrapper body first p m) {g : Nat}
    (hg : wrapper < g) {start stop : Nat} (hspan : m.span? g = some (start, stop)) : stop ≤ p := by
  obtain ⟨-, -, hle⟩ := Marks.span?_eq_some.mp h.round
  rcases h.captured g hg start stop hspan with ⟨-, hstop⟩ | hstop
  · exact hstop
  · exact Nat.le_trans hstop hle

/-- **All rounds.** After the rounds of a group, of which there is one at least or has been one
before, the groups stand as the last round leaves them. -/
theorem Way.isLastRound {node : Node} (h : Way r node p m q n) {most : Option Nat}
    (hnode : node = .loop least most .greedy (.group wrapper body)) (hwrapper : 1 ≤ wrapper)
    (hlook : body.looksAround = false) (hgroups : ∀ g ∈ body.groups, wrapper < g)
    (hbefore : ∀ g, wrapper < g → ∀ start stop, m.span? g = some (start, stop) → stop ≤ p)
    (hlast : least = 0 → ∃ first, IsLastRound wrapper body first p m) :
    ∃ first, IsLastRound wrapper body first q n := by
  -- on the way; after each round the least count is one less and a last round is known
  induction h generalizing least with
  | chars hset =>
    cases hnode
    cases hset
  | enough =>
    cases hnode
    exact hlast rfl
  | @round r _ _ _ _ _ _ _ _ _ _ hround _ _ ih =>
    cases hnode
    have htrue : (r || Greed.greedy != .possessive) = true := Bool.or_true r
    rw [htrue] at hround
    have hended := hround.endsRound hwrapper hlook hgroups hbefore
    exact ih rfl (fun g hg _ _ => hended.stop_le hg) fun _ => ⟨_, hended⟩
  | _ => cases hnode

end

/-! ## A repetition that ends a pattern -/

/-- Below a number of groups, marks are set only below it. -/
theorem Way.count_le {r : Bool} {node : Node} {p q limit : Nat} {m n : Marks}
    (h : Way r node p m q n) (hbelow : node.StaysBelow limit) (hm : m.count ≤ 2 * (limit - 1)) :
    n.count ≤ 2 * (limit - 1) := by
  induction h with
  | empty | one | place | backref | enough | left => exact hm
  | seq _ _ ih₁ ih₂ =>
    obtain ⟨hfirst, hsecond⟩ := List.forall_mem_append.mp hbelow
    exact ih₂ hsecond (ih₁ hfirst hm)
  | first _ ih | yes _ ih => exact ih (List.forall_mem_append.mp hbelow).1 hm
  | no _ ih => exact ih (List.forall_mem_append.mp hbelow).2 hm
  | rest hunsettled _ ih =>
    exact ih (List.forall_mem_append.mp hbelow).2 (Nat.le_trans hunsettled.count_le hm)
  | group _ ih =>
    obtain ⟨hindex, hbody⟩ := List.forall_mem_cons.mp hbelow
    have hinner := ih hbody (by rw [Marks.count_set]; omega)
    rw [Marks.count_set]
    omega
  | scope _ ih | atomic _ ih | seen _ ih => exact ih hbelow hm
  | unseen hunsettled | chars _ _ hunsettled => exact Nat.le_trans hunsettled.count_le hm
  | round _ _ ih₁ ih₂ => exact ih₂ hbelow (ih₁ hbelow hm)
  | again hunsettled _ ih => exact ih hbelow (Nat.le_trans hunsettled.count_le hm)

/-- The tree ends with `last` in some of its alternatives. All else in it stays below a number of
groups. -/
inductive Trails (limit : Nat) (last : Node) : Node → Prop
  | last : Trails limit last last
  | apart {node : Node} : node.StaysBelow limit → Trails limit last node
  | seq {first second : Node} : first.StaysBelow limit → Trails limit last second →
    Trails limit last (.seq first second)
  | either {first rest : Node} : Trails limit last first → Trails limit last rest →
    Trails limit last (.either first rest)

namespace Trails

open Node

variable {limit : Nat} {last : Node}

/-- A way through such a tree ends with a way through `last`, unless it takes an alternative
without it. -/
theorem exists_way {node : Node} (htrails : Trails limit last node) {r : Bool} {p q : Nat}
    {m n : Marks} (h : Way r node p m q n) (hm : m.count ≤ 2 * (limit - 1)) :
    n.count ≤ 2 * (limit - 1) ∨
      ∃ p' m', m'.count ≤ 2 * (limit - 1) ∧ Way r last p' m' q n := by
  induction htrails generalizing p m with
  | last => exact Or.inr ⟨p, m, hm, h⟩
  | apart hbelow => exact Or.inl (h.count_le hbelow hm)
  | seq hfirst _ ih =>
    cases h with
    | seq h₁ h₂ => exact ih h₂ (h₁.count_le hfirst hm)
  | either _ _ ih₁ ih₂ =>
    cases h with
    | first h => exact ih₁ h hm
    | rest hunsettled h => exact ih₂ h (Nat.le_trans hunsettled.count_le hm)

/-- A branch that may end with `last`. -/
def Branch (limit : Nat) (last : Node) (branch : List Node) : Prop :=
  (∀ node ∈ branch, node.StaysBelow limit) ∨
    ∃ init, branch = init ++ [last] ∧ ∀ node ∈ init, node.StaysBelow limit

theorem Branch.tail {node : Node} {rest : List Node} (h : Branch limit last (node :: rest)) :
    Branch limit last rest := by
  rcases h with hbelow | ⟨init, hinit, hbelow⟩
  · exact Or.inl fun other hother => hbelow other (List.mem_cons_of_mem _ hother)
  · cases init with
    | nil =>
      cases hinit
      exact Or.inl nofun
    | cons first init =>
      cases hinit
      exact Or.inr ⟨init, rfl, fun other hother => hbelow other (List.mem_cons_of_mem _ hother)⟩

theorem sequence_append {init : List Node} (hinit : ∀ node ∈ init, node.StaysBelow limit)
    {node : Node} (h : Trails limit last node) : Trails limit last (sequence (init ++ [node])) := by
  induction init with
  | nil => exact h
  | cons first rest ih =>
    obtain ⟨hfirst, hrest⟩ := List.forall_mem_cons.mp hinit
    have hne : rest ++ [node] ≠ [] := List.append_ne_nil_of_right_ne_nil _ (List.cons_ne_nil _ _)
    obtain ⟨next, more, hcons⟩ := List.exists_cons_of_ne_nil hne
    have htail := ih hrest
    rw [List.cons_append, hcons] at *
    exact .seq hfirst htail

theorem Branch.sequence {branch : List Node} (h : Branch limit last branch) :
    Trails limit last (sequence branch) := by
  rcases h with hbelow | ⟨init, rfl, hbelow⟩
  · exact .apart (staysBelow_sequence.mpr hbelow)
  · exact sequence_append hbelow .last

theorem alternatives {branches : List (List Node)}
    (h : ∀ branch ∈ branches, Branch limit last branch) :
    Trails limit last (alternatives branches) := by
  unfold Node.alternatives
  split
  · exact .apart nofun
  · clear * - h
    induction branches with
    | nil => exact .apart nofun
    | cons branch rest ih =>
      obtain ⟨hbranch, hrest⟩ := List.forall_mem_cons.mp h
      exact .either hbranch.sequence (ih hrest)

theorem Branch.of_dropFirst? {node : Node} {nodes rest : List Node} (h : Branch limit last nodes)
    (hdrop : dropFirst? node nodes = some rest) : Branch limit last rest := by
  obtain ⟨first, rfl, -⟩ := isSame_of_dropFirst? hdrop
  exact h.tail

/-- What branches have in common is put in front of them, and the rest of each may still end with
`last`. -/
theorem splitShared {branch : List Node} {others : List (List Node)}
    (h : ∀ b ∈ branch :: others, Branch limit last b) :
    ∀ b ∈ (splitShared branch others).2, Branch limit last b := by
  induction branch generalizing others with
  | nil => exact h
  | cons node rest ih =>
    rw [Node.splitShared]
    split
    · rename_i rests hrests
      refine ih fun b hb => ?_
      rcases List.mem_cons.mp hb with rfl | hb
      · exact (h _ List.mem_cons_self).tail
      · obtain ⟨other, hother, hdrop⟩ := exists_of_forall₂ (mapM_eq_some.mp hrests).flip b hb
        exact (h other (List.mem_cons_of_mem _ hother)).of_dropFirst? hdrop
    · exact h

theorem choice {branches : List (List Node)} (h : ∀ b ∈ branches, Branch limit last b) :
    Trails limit last (choice branches) := by
  match branches with
  | [] => exact .apart nofun
  | [branch] => exact (h branch List.mem_cons_self).sequence
  -- what the branches share has no groups, so it stays below any number
  | branch :: other :: others =>
    refine sequence_append (fun node hnode => ?_) (alternatives (splitShared h))
    obtain ⟨a, hsame⟩ := exists_isSame_of_mem_splitShared (List.cons_ne_nil other others) node hnode
    exact staysBelow_of_groups_eq_nil (groups_of_isSame hsame)

end Trails

theorem Trails.isLastRound_of_matchAt [Engine] {wrapper : Nat} {body root : Node}
    {most : Option Nat} (htrails : Trails wrapper (.loop 1 most .greedy (.group wrapper body)) root)
    (hwrapper : 1 ≤ wrapper) (hlook : body.looksAround = false)
    (hgroups : ∀ g ∈ body.groups, wrapper < g) {text : Array Char} {pos stop : Nat} {marks : Marks}
    (h : root.matchAt text pos = some (stop, marks)) :
    (∀ g, wrapper ≤ g → marks.span? g = none) ∨
      ∃ first, IsLastRound wrapper body first stop marks := by
  have hempty : Marks.count {} ≤ 2 * (wrapper - 1) := Nat.zero_le _
  rcases htrails.exists_way (Node.way_of_matchAt h) hempty with hcount | ⟨p, m, hm, hway⟩
  · exact Or.inl fun g hg => Marks.span?_of_count_le hcount hg
  · refine Or.inr (hway.isLastRound rfl hwrapper hlook hgroups ?_ nofun)
    intro g hg start stop hspan
    rw [Marks.span?_of_count_le hm hg.le] at hspan
    cases hspan

end ProblemMatcher.Regex
