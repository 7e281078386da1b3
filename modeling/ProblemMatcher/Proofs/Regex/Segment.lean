import ProblemMatcher.Proofs.Regex.Ends

/-!
# Ends inside a segment of the text

A local tree sees nothing of the text around what it takes up. So where it can end inside a segment
it can end as well when the segment is all the text there is. Where choices may be taken back, the
two lists of ends are in the same order, and so even the first end inside is the same one; this is
what atomic groups and possessive repetitions ask for.

1. `ends_advances`: no tree takes up less than its width says.
2. `Transfer`: relations of ends that sequences, alternatives and rounds keep.
3. `ends_transfer`: what is between the ends in the text and those in the segment.
-/

namespace ProblemMatcher.Regex.Node

/-! ## How far ends lie ahead -/

/-- The ends lie so many characters ahead at least, and within the text. -/
def Advances (size least : Nat) (body : Nat → List Nat) : Prop :=
  ∀ pos, ∀ stop ∈ body pos, pos + least ≤ stop ∧ stop ≤ max pos size

variable {body : Nat → List Nat} {size n : Nat}

theorem Advances.mono {m : Nat} (h : Advances size n body) (hm : m ≤ n) :
    Advances size m body := by
  intro pos stop hstop
  obtain ⟨hahead, hwithin⟩ := h pos stop hstop
  exact ⟨Nat.le_trans (Nat.add_le_add_left hm pos) hahead, hwithin⟩

theorem Advances.flatMap {m : Nat} {first second : Nat → List Nat} (h₁ : Advances size n first)
    (h₂ : Advances size m second) :
    Advances size (n + m) fun pos => (first pos).flatMap second := by
  intro pos stop hstop
  obtain ⟨middle, hmiddle, hstop⟩ := List.mem_flatMap.mp hstop
  obtain ⟨hfirst, hfirst'⟩ := h₁ pos middle hmiddle
  obtain ⟨hsecond, hsecond'⟩ := h₂ middle stop hstop
  omega

theorem advances_singleton : Advances size 0 fun pos => [pos] := by
  intro pos stop hstop
  rw [List.mem_singleton.mp hstop]
  exact ⟨Nat.le_refl pos, Nat.le_max_left pos size⟩

theorem Advances.repeatEnds (h : Advances size n body) (count : Nat) :
    Advances size (n * count) (repeatEnds body count) := by
  induction count with
  | zero => exact advances_singleton
  | succ count ih =>
    rw [Nat.mul_succ, Nat.add_comm]
    exact h.flatMap ih

theorem Advances.optionalEnds (h : Advances size 0 body) (fewest : Bool) (bound : Nat)
    (left last : Option Nat) : Advances size 0 (optionalEnds body fewest bound left last) := by
  induction bound generalizing left last with
  | zero => exact advances_singleton
  | succ bound ih =>
    intro pos
    cases hspent : isSpent left last (.start pos) with
    | true =>
      rw [optionalEnds_of_isSpent hspent]
      exact advances_singleton pos
    | false =>
      have hfurther := (h.flatMap (ih (left.map (· - 1)) (some pos))) pos
      intro stop hstop
      rw [optionalEnds_succ hspent] at hstop
      cases fewest with
      | true =>
        rcases List.mem_cons.mp hstop with rfl | hstop
        · exact advances_singleton stop stop (List.mem_singleton_self stop)
        · exact hfurther stop hstop
      | false =>
        rcases List.mem_append.mp hstop with hstop | hstop
        · exact hfurther stop hstop
        · exact advances_singleton pos stop hstop

theorem Advances.loopEnds (h : Advances size n body) (bound least : Nat) (most : Option Nat)
    (greed : Greed) : Advances size (n * least) (loopEnds bound least most greed body) := by
  intro pos stop hstop
  have hall := (h.repeatEnds least).flatMap ((h.mono (Nat.zero_le n)).optionalEnds
    (greed == .reluctant) bound (most.map (· - least)) none) pos stop
  unfold Node.loopEnds at hstop
  simp only at hstop
  split_ifs at hstop
  · exact hall (List.mem_of_mem_take hstop)
  · exact hall hstop

/-- No tree takes up less than its width says, or more than the text. -/
theorem ends_advances (text : Array Char) (groups : Nat → Width) (node : Node) :
    Advances text.size (node.width groups).least (node.ends text) := by
  induction node with
  | empty => exact advances_singleton
  | one set =>
    intro pos stop hstop
    change stop ∈ oneEnd text set pos at hstop
    unfold oneEnd at hstop
    split_ifs at hstop with hc
    · rw [List.mem_singleton.mp hstop]
      exact ⟨Nat.le_refl _, Nat.le_trans (lt_size_of_any hc) (Nat.le_max_right _ _)⟩
    · cases hstop
  | seq first second ih₁ ih₂ => exact ih₁.flatMap ih₂
  | either first rest ih₁ ih₂ =>
    intro pos stop hstop
    rw [width]
    -- no alternative stands behind the last one, so its width does not count
    split_ifs with hrest
    · subst hrest
      rw [ends, show Node.never.ends text pos = [] from rfl, List.append_nil] at hstop
      exact ih₁ pos stop hstop
    · rcases List.mem_append.mp hstop with hstop | hstop
      · exact ih₁.mono (Nat.min_le_left _ _) pos stop hstop
      · exact ih₂.mono (Nat.min_le_right _ _) pos stop hstop
  | group index body ih | scope body ih => exact ih
  | atomic body ih => exact fun pos stop hstop => ih pos stop (List.mem_of_mem_take hstop)
  | loop least most greed body ih =>
    intro pos stop hstop
    change stop ∈ (if _ then [] else loopEnds _ _ _ _ (body.ends text) pos : List Nat) at hstop
    split_ifs at hstop
    · cases hstop
    · exact ih.loopEnds _ _ _ _ pos stop hstop
  | never | place | backref | given | look => exact fun pos stop hstop => nomatch hstop

/-! ## Ends in the text and in a segment of it -/

/-- The segment begins at `a` and ends at `b`. A relation between ends in the text and ends in the
segment is kept by all that trees are made of. -/
structure Transfer (a b : Nat) (R : List Nat → List Nat → Prop) : Prop where
  single {pos : Nat} : a + pos ≤ b → R [a + pos] [pos]
  /-- What ends beyond the segment does not end in it. -/
  beyond {l : List Nat} : (∀ stop ∈ l, b < stop) → R l []
  append {l l' m m' : List Nat} : R l l' → R m m' → R (l ++ m) (l' ++ m')
  flatMap {l l' : List Nat} {size : Nat} {next next' : Nat → List Nat} : R l l' → Advances size 0 next →
    (∀ pos ∈ l', a + pos ≤ b → R (next (a + pos)) (next' pos)) →
    R (l.flatMap next) (l'.flatMap next')

/-- The ends in the segment are those that lie inside it, in the same order. -/
def SameInside (a b : Nat) (l l' : List Nat) : Prop :=
  l'.map (a + ·) = l.filter (· ≤ b)

/-- The ends that lie inside the segment are ends in the segment. -/
def FoundInside (a b : Nat) (l l' : List Nat) : Prop :=
  ∀ stop ∈ l, stop ≤ b → ∃ pos ∈ l', a + pos = stop

section

variable {a b : Nat}

theorem filter_eq_nil_of_beyond {l : List Nat} (h : ∀ stop ∈ l, b < stop) :
    l.filter (· ≤ b) = [] := by
  refine List.filter_eq_nil_iff.mpr fun stop hstop => ?_
  rw [decide_eq_true_eq]
  exact Nat.not_le.mpr (h stop hstop)

theorem flatMap_eq_of_filter {l : List Nat} {p : Nat → Bool} {f : Nat → List Nat}
    (h : ∀ x ∈ l, ¬p x = true → f x = []) : l.flatMap f = (l.filter p).flatMap f := by
  induction l with
  | nil => rfl
  | cons x rest ih =>
    have hrest := ih fun y hy => h y (List.mem_cons_of_mem _ hy)
    rw [List.flatMap_cons, List.filter_cons, hrest]
    split_ifs with hx
    · rfl
    · rw [h x List.mem_cons_self hx, List.nil_append]

theorem transfer_sameInside : Transfer a b (SameInside a b) where
  single h := by
    rw [SameInside, List.filter_singleton, decide_eq_true h]
    rfl
  beyond h := (filter_eq_nil_of_beyond h).symm
  append h₁ h₂ := by
    rw [SameInside, List.map_append, List.filter_append, h₁, h₂]
  flatMap {l l' size next next'} h hnext hR := by
    -- what begins beyond the segment ends beyond it
    have hinside : ∀ stop ∈ l, ¬decide (stop ≤ b) = true → (next stop).filter (· ≤ b) = [] := by
      intro stop _ hstop
      rw [decide_eq_true_eq, Nat.not_le] at hstop
      exact filter_eq_nil_of_beyond fun further hfurther =>
        Nat.lt_of_lt_of_le hstop (hnext stop further hfurther).1
    rw [SameInside, List.filter_flatMap, flatMap_eq_of_filter hinside, ← h, List.flatMap_map, List.map_flatMap]
    refine List.flatMap_congr fun pos hpos => hR pos hpos ?_
    have hmem : a + pos ∈ l.filter (· ≤ b) := h ▸ List.mem_map_of_mem hpos
    exact of_decide_eq_true (List.mem_filter.mp hmem).2

theorem transfer_foundInside : Transfer a b (FoundInside a b) where
  single {pos} _ := by
    intro stop hstop _
    exact ⟨pos, List.mem_singleton_self pos, (List.mem_singleton.mp hstop).symm⟩
  beyond h := fun stop hstop hle => absurd hle (Nat.not_le.mpr (h stop hstop))
  append h₁ h₂ := by
    intro stop hstop hle
    rcases List.mem_append.mp hstop with hstop | hstop
    · obtain ⟨pos, hpos, h⟩ := h₁ stop hstop hle
      exact ⟨pos, List.mem_append_left _ hpos, h⟩
    · obtain ⟨pos, hpos, h⟩ := h₂ stop hstop hle
      exact ⟨pos, List.mem_append_right _ hpos, h⟩
  flatMap h hnext hR := by
    intro stop hstop hle
    obtain ⟨middle, hmiddle, hstop⟩ := List.mem_flatMap.mp hstop
    have hmiddle_le : middle ≤ b := Nat.le_trans (hnext middle stop hstop).1 hle
    obtain ⟨pos, hpos, rfl⟩ := h middle hmiddle hmiddle_le
    obtain ⟨stop', hstop', h⟩ := hR pos hpos hmiddle_le stop hstop hle
    exact ⟨stop', List.mem_flatMap.mpr ⟨pos, hpos, hstop'⟩, h⟩

/-- The first end in the text, if it lies inside the segment, is the first end in the segment. -/
theorem foundInside_take_one {l l' : List Nat} (h : SameInside a b l l') :
    FoundInside a b (l.take 1) (l'.take 1) := by
  intro stop hstop hle
  cases l with
  | nil => cases hstop
  | cons first rest =>
    obtain rfl := List.mem_singleton.mp hstop
    rw [SameInside, List.filter_cons, if_pos (decide_eq_true hle)] at h
    cases l' with
    | nil => cases h
    | cons pos rest' =>
      exact ⟨pos, List.mem_singleton_self pos, (List.cons.inj h).1⟩

end

/-! ## Rounds -/

/-- No fewer rounds than there can be from a place on, the one before having begun at `last`. -/
def roundsLeft (size pos : Nat) (last : Option Nat) : Nat :=
  size - pos + if last = some pos then 0 else 1

theorem isSpent_of_roundsLeft {size pos : Nat} {left last : Option Nat}
    (h : roundsLeft size pos last = 0) : isSpent left last (.start pos) = true := by
  unfold roundsLeft at h
  split_ifs at h with hlast
  · rw [hlast]
    simp [isSpent, State.start]

theorem roundsLeft_of_not_isSpent {size pos : Nat} {left last : Option Nat}
    (h : isSpent left last (.start pos) = false) : roundsLeft size pos last = size - pos + 1 := by
  unfold roundsLeft
  split_ifs with hlast
  · rw [hlast] at h
    simp [isSpent, State.start] at h
  · rfl

/-- After a round there is one round less left. -/
theorem roundsLeft_le {size pos stop : Nat} (h : pos ≤ stop) (hstop : stop ≤ size) :
    roundsLeft size stop (some pos) ≤ size - pos := by
  unfold roundsLeft
  split_ifs with hlast
  · cases hlast
    exact Nat.le_refl _
  · have hne : pos ≠ stop := fun heq => hlast (congrArg some heq)
    omega

theorem isSpent_shift (a : Nat) (left last : Option Nat) (pos : Nat) :
    isSpent left (last.map (a + ·)) (.start (a + pos)) = isSpent left last (.start pos) := by
  cases last with
  | none => rfl
  | some place =>
    have hplace : (a + place == a + pos) = (place == pos) := by
      rw [Bool.eq_iff_iff, beq_iff_eq, beq_iff_eq]
      omega
    show (_ || (a + place == a + pos)) = (_ || (place == pos))
    rw [hplace]

section

variable {a b : Nat} {R : List Nat → List Nat → Prop} (hR : Transfer a b R)
  {body' : Nat → List Nat} (hbody : ∀ {pos}, a + pos ≤ b → R (body (a + pos)) (body' pos))
  (hahead : Advances size 0 body) {size' : Nat} (hahead' : Advances size' 0 body')
include hR hbody hahead

theorem repeatEnds_transfer (count : Nat) {pos : Nat} (h : a + pos ≤ b) :
    R (repeatEnds body count (a + pos)) (repeatEnds body' count pos) := by
  induction count generalizing pos with
  | zero => exact hR.single h
  | succ count ih =>
    have hrest : Advances size 0 (repeatEnds body count) :=
      (hahead.repeatEnds count).mono (Nat.zero_le _)
    exact hR.flatMap (hbody h) hrest fun pos' _ h' => ih h'

include hahead'

/-- How many rounds are allowed for makes no difference once there are enough. -/
theorem optionalEnds_transfer (fewest : Bool) {bound bound' pos : Nat} {left last : Option Nat}
    (h : a + pos ≤ b) (hbound : roundsLeft (b - a) pos last ≤ bound)
    (hbound' : roundsLeft (b - a) pos last ≤ bound') :
    R (optionalEnds body fewest bound left (last.map (a + ·)) (a + pos))
      (optionalEnds body' fewest bound' left last pos) := by
  have hstop : ∀ {bound bound' left last pos}, a + pos ≤ b →
      isSpent left last (.start pos) = true →
      R (optionalEnds body fewest bound left (Option.map (a + ·) last) (a + pos))
        (optionalEnds body' fewest bound' left last pos) := by
    intro bound bound' left last pos h hspent
    rw [optionalEnds_of_isSpent hspent, optionalEnds_of_isSpent ((isSpent_shift ..).trans hspent)]
    exact hR.single h
  -- on one of the two bounds; the other is large enough for as many rounds
  induction bound generalizing bound' left last pos with
  | zero => exact hstop h (isSpent_of_roundsLeft (Nat.le_zero.mp hbound))
  | succ bound ih =>
    cases hspent : isSpent left last (.start pos) with
    | true => exact hstop h hspent
    | false =>
      rw [roundsLeft_of_not_isSpent hspent] at hbound hbound'
      obtain ⟨bound', rfl⟩ : ∃ n, bound' = n + 1 := ⟨bound' - 1, by omega⟩
      have hrest : Advances size 0
          (optionalEnds body fewest bound (left.map (· - 1)) (some (a + pos))) :=
        hahead.optionalEnds _ _ _ _
      have hround : ∀ pos' ∈ body' pos, a + pos' ≤ b →
          R (optionalEnds body fewest bound (left.map (· - 1)) (Option.map (a + ·) (some pos))
              (a + pos'))
            (optionalEnds body' fewest bound' (left.map (· - 1)) (some pos) pos') := by
        intro pos' hpos' h'
        have hle : roundsLeft (b - a) pos' (some pos) ≤ b - a - pos :=
          roundsLeft_le (hahead' pos pos' hpos').1 (by omega)
        exact ih h' (by omega) (by omega)
      have hfurther := hR.flatMap (hbody h) hrest hround
      rw [optionalEnds_succ ((isSpent_shift ..).trans hspent), optionalEnds_succ hspent]
      cases fewest with
      | true => exact hR.append (hR.single h) hfurther
      | false => exact hR.append hfurther (hR.single h)

end

/-! ## Trees -/

variable {text : Array Char} {a b : Nat} {R : List Nat → List Nat → Prop}

theorem oneEnd_transfer (hR : Transfer a b R) (hb : b ≤ text.size) (set : CharSet) {pos : Nat}
    (h : a + pos ≤ b) :
    R (oneEnd text set (a + pos)) (oneEnd (text.extract a b) set pos) := by
  have hsize : min b text.size - a = b - a := by rw [Nat.min_eq_left hb]
  rw [oneEnd, oneEnd, Array.getElem?_extract, hsize]
  by_cases hpos : pos < b - a
  · rw [if_pos hpos]
    have hnext : a + (pos + 1) ≤ b := by omega
    split_ifs
    · exact hR.single hnext
    · exact hR.beyond nofun
  · rw [if_neg hpos]
    refine hR.beyond fun stop hstop => ?_
    split_ifs at hstop
    · rw [List.mem_singleton] at hstop
      omega
    · cases hstop

theorem ends_ahead (text : Array Char) (node : Node) : Advances text.size 0 (node.ends text) :=
  (node.ends_advances text fun _ => .zero).mono (Nat.zero_le _)

theorem loopEnds_transfer (hR : Transfer a b R) (hb : b ≤ text.size) {body : Node}
    (hbody : ∀ {pos}, a + pos ≤ b →
      R (body.ends text (a + pos)) (body.ends (text.extract a b) pos))
    (least : Nat) (most : Option Nat) (greed : Greed) (hgreed : greed ≠ .possessive) {pos : Nat}
    (h : a + pos ≤ b) :
    R (loopEnds (roundBound text) least most greed (body.ends text) (a + pos))
      (loopEnds (roundBound (text.extract a b)) least most greed (body.ends (text.extract a b))
        pos) := by
  unfold loopEnds
  simp only [if_neg hgreed]
  have hahead := ends_ahead text body
  refine hR.flatMap (repeatEnds_transfer hR hbody hahead least h) (hahead.optionalEnds _ _ _ _) ?_
  intro pos' _ h'
  have hleft : roundsLeft (b - a) pos' none = b - a - pos' + 1 := rfl
  show R (optionalEnds _ _ _ _ (Option.map (a + ·) none) _) _
  refine optionalEnds_transfer hR hbody hahead (ends_ahead _ body) _ h' ?_ ?_
  · rw [hleft, roundBound]
    omega
  · rw [hleft, roundBound, Array.size_extract]
    omega

/-- **Ends inside a segment.** A tree all of whose choices may be taken back has the same ends
inside a segment, in the same order; those of any local tree can be found there. -/
theorem ends_transfer (hb : b ≤ text.size) {node : Node} (hlocal : node.isLocal = true)
    (hR : Transfer a b R)
    (hfirst : node.isRevisable = true ∨
      ∀ l l', SameInside a b l l' → R (l.take 1) (l'.take 1))
    {pos : Nat} (h : a + pos ≤ b) :
    R (node.ends text (a + pos)) (node.ends (text.extract a b) pos) := by
  have hnil : R [] [] := hR.beyond nofun
  induction node generalizing R pos with
  | empty => exact hR.single h
  | one set => exact oneEnd_transfer hR hb set h
  | seq first second ih₁ ih₂ =>
    rw [isLocal, Bool.and_eq_true] at hlocal
    rw [isRevisable, Bool.and_eq_true] at hfirst
    exact hR.flatMap (ih₁ hlocal.1 hR (hfirst.imp_left And.left) h hnil) (ends_ahead text second)
      fun pos' _ h' => ih₂ hlocal.2 hR (hfirst.imp_left And.right) h' hnil
  | never => exact hnil
  | either first rest ih₁ ih₂ =>
    rw [isLocal, Bool.and_eq_true] at hlocal
    rw [isRevisable, Bool.and_eq_true] at hfirst
    exact hR.append (ih₁ hlocal.1 hR (hfirst.imp_left And.left) h hnil)
      (ih₂ hlocal.2 hR (hfirst.imp_left And.right) h hnil)
  | group index body ih | scope body ih => exact ih hlocal hR hfirst h hnil
  | atomic body ih =>
    rcases hfirst with hrevisable | hfirst
    · cases hrevisable
    · -- the ends of the body agree in their order, so the first one inside is the same
      exact hfirst _ _ (ih (isLocal_of_isRevisable hlocal) transfer_sameInside (Or.inl hlocal) h rfl)
  | loop least most greed body ih =>
    rw [ends, ends]
    split_ifs with hnone
    · exact hnil
    · cases greed with
      | greedy | reluctant =>
        refine loopEnds_transfer hR hb (fun h => ih hlocal hR ?_ h hnil) least most _ (by decide) h
        exact hfirst.imp_left fun h => (Bool.and_eq_true_iff.mp h).2
      | possessive =>
        have hbody := isRevisable_of_set? hlocal
        rcases hfirst with hrevisable | hfirst
        · cases hrevisable
        · refine hfirst _ _ (loopEnds_transfer transfer_sameInside hb (fun h => ?_) least most
            .greedy (by decide) h)
          exact ih (isLocal_of_isRevisable hbody) transfer_sameInside (Or.inl hbody) h rfl
  | place | backref | given | look => cases hlocal

end ProblemMatcher.Regex.Node
