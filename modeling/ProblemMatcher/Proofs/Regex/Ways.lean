import ProblemMatcher.Proofs.Regex.Within

/-!
# Ways through a tree

A match has taken one way through the tree of its pattern. Where a way leads is told by a relation
of places and marks that follows the tree and leaves aside what the text says and in which order
ways are tried. Ways that failed before leave something behind only outside the rounds of a
repetition: there the marks that were set may be others, but none is set behind them.

1. `Marks.Unsettled`: what ways that failed may leave behind.
2. `Way`: where a way leads, one rule for each kind of tree.
3. `Node.follows_run`: whatever comes after a tree is tried at the end of a way through it.
4. `Node.way_of_matchAt`: a match is a way through the whole tree.
-/

namespace ProblemMatcher.Regex

/-! ## Marks left behind -/

/-- The second marks may stand where the first ones stood, after ways that failed. -/
def Marks.Unsettled (inRound : Bool) (m m' : Marks) : Prop :=
  m' = m ∨ inRound = false ∧ m'.count ≤ m.count

namespace Marks

variable {inRound : Bool} {m m' m'' : Marks}

theorem Unsettled.refl (inRound : Bool) (m : Marks) : Unsettled inRound m m :=
  Or.inl rfl

theorem Unsettled.trans (h : Unsettled inRound m m') (h' : Unsettled inRound m' m'') :
    Unsettled inRound m m'' := by
  rcases h with rfl | ⟨hround, hle⟩
  · exact h'
  · rcases h' with rfl | ⟨-, hle'⟩
    · exact Or.inr ⟨hround, hle⟩
    · exact Or.inr ⟨hround, Nat.le_trans hle' hle⟩

theorem Unsettled.eq (h : Unsettled true m m') : m' = m :=
  h.resolve_right fun hfalse => Bool.noConfusion hfalse.1

theorem Unsettled.count_le (h : Unsettled inRound m m') : m'.count ≤ m.count := by
  rcases h with rfl | ⟨-, hle⟩
  · exact Nat.le_refl _
  · exact hle

theorem count_take_le (m : Marks) (n : Nat) : (m.take n).count ≤ n := by
  unfold take count
  simp

end Marks

theorem State.unsettled_retry (s : State) (inRound : Bool) (noted : Nat) (marks : Marks) :
    s.marks.Unsettled inRound (s.retry inRound noted marks).marks := by
  cases inRound with
  | true => exact Or.inl rfl
  | false => exact Or.inr ⟨rfl, Marks.count_take_le _ _⟩

/-! ## Ways -/

/-- A way leads through a tree, from a place and marks to others. `inRound` tells whether the tree
stands inside a round of a repetition that may be taken back. -/
inductive Way : (inRound : Bool) → Node → Nat → Marks → Nat → Marks → Prop
  | empty {r p m} : Way r .empty p m p m
  | one {r set p m} : Way r (.one set) p m (p + 1) m
  | place {r which p m} : Way r (.place which) p m p m
  | seq {r first second p m p₁ m₁ p₂ m₂} : Way r first p m p₁ m₁ → Way r second p₁ m₁ p₂ m₂ →
    Way r (.seq first second) p m p₂ m₂
  | first {r first rest p m q n} : Way r first p m q n → Way r (.either first rest) p m q n
  | rest {r first rest p m m' q n} : m.Unsettled r m' → Way r rest p m' q n →
    Way r (.either first rest) p m q n
  | group {r index body p m q n} : Way r body p (m.set (2 * (index - 1)) p) q n →
    Way r (.group index body) p m q (n.set (2 * (index - 1) + 1) q)
  | scope {r body p m q n} : Way r body p m q n → Way r (.scope body) p m q n
  | backref {r index rule p m q} : p ≤ q → Way r (.backref index rule) p m q m
  | yes {r index yes no p m q n} : Way r yes p m q n → Way r (.given index yes no) p m q n
  | no {r index yes no p m q n} : Way r no p m q n → Way r (.given index yes no) p m q n
  /-- What has been seen keeps its marks. -/
  | seen {r side negated body p m p' q n} : Way r body p' m q n →
    Way r (.look side negated body) p m p n
  | unseen {r side negated body p m m'} : m.Unsettled r m' →
    Way r (.look side negated body) p m p m'
  | atomic {r body p m q n} : Way r body p m q n → Way r (.atomic body) p m q n
  /-- A repetition of one character. -/
  | chars {r least most greed body set p m q m'} : body.set? = some set → p ≤ q →
    m.Unsettled r m' → Way r (.loop least most greed body) p m q m'
  | enough {r most greed body p m} : Way r (.loop 0 most greed body) p m p m
  | round {r least most greed body p m p₁ m₁ p₂ m₂} :
    Way (r || greed != .possessive) body p m p₁ m₁ →
    Way r (.loop (least - 1) most greed body) p₁ m₁ p₂ m₂ →
    Way r (.loop least most greed body) p m p₂ m₂
  /-- Going on was tried first, and failed. -/
  | again {r most body p m m' q n} : m.Unsettled r m' →
    Way r (.loop 0 most .reluctant body) p m' q n → Way r (.loop 0 most .reluctant body) p m q n
  /-- A round that fails may be left where it last noted a place. -/
  | left {r most body p m q} : body.looksAround = true ∨ p ≤ q →
    Way r (.loop 0 most .possessive body) p m q m

/-- Where a tree goes on with what comes after it, a way through it has led. -/
def Runner.Follows (way : Nat → Marks → Nat → Marks → Prop) (body : Runner) : Prop :=
  ∀ next s t, body next s = .matched t →
    ∃ s' : State, way s.pos s.marks s'.pos s'.marks ∧ next s' = .matched t

/-! ## Rounds -/

theorem matched_of_noting {o : Outcome} {pos : Nat} {t : State} (h : o.noting pos = .matched t) :
    o = .matched t := by
  cases o with
  | matched s => exact h
  | failed => cases h

section

variable {inRound : Bool} {most : Option Nat} {body : Node} {run : Runner}
variable {next after : Continuation} {s t : State}

/-- So many rounds, and then what a repetition still does. -/
theorem exists_of_rounds {greed : Greed}
    (hrun : run.Follows (Way (inRound || greed != .possessive) body))
    (hnext : ∀ s, next s = .matched t →
      ∃ s', Way inRound (.loop 0 most greed body) s.pos s.marks s'.pos s'.marks ∧
        after s' = .matched t) (n : Nat) (h : rounds run next n s = .matched t) :
    ∃ s', Way inRound (.loop n most greed body) s.pos s.marks s'.pos s'.marks ∧
      after s' = .matched t := by
  -- a round is followed to its end, and what comes after it there is the rest of the rounds
  induction n generalizing s with
  | zero => exact hnext s h
  | succ n ih =>
    rw [rounds] at h
    obtain ⟨s₁, hround, h⟩ := hrun _ _ _ (matched_of_noting h)
    obtain ⟨s₂, hrest, h⟩ := ih h
    exact ⟨s₂, .round hround hrest, h⟩

theorem exists_of_mostRounds
    (hrun : run.Follows (Way (inRound || Greed.greedy != .possessive) body)) (bound : Nat)
    (left last : Option Nat) (h : mostRounds run next bound left last s = .matched t) :
    ∃ s', Way inRound (.loop 0 most .greedy body) s.pos s.marks s'.pos s'.marks ∧
      next s' = .matched t := by
  have hend : ∀ s : State, (next s.note).noting s.pos = .matched t →
      ∃ s', Way inRound (.loop 0 most .greedy body) s.pos s.marks s'.pos s'.marks ∧
        next s' = .matched t :=
    fun s h => ⟨s.note, .enough, matched_of_noting h⟩
  induction bound generalizing left last s with
  | zero => exact hend s h
  | succ bound ih =>
    rw [mostRounds] at h
    split_ifs at h
    · exact hend s h
    · split at h
      · rename_i found hfound
        cases h
        obtain ⟨s₁, hround, h⟩ := hrun _ _ _ hfound
        obtain ⟨s₂, hrest, h⟩ := ih _ _ h
        exact ⟨s₂, .round hround hrest, h⟩
      · exact hend s h

theorem exists_of_fewestRounds
    (hrun : run.Follows (Way (inRound || Greed.reluctant != .possessive) body)) (bound : Nat)
    (left last : Option Nat) (h : fewestRounds inRound run next bound left last s = .matched t) :
    ∃ s', Way inRound (.loop 0 most .reluctant body) s.pos s.marks s'.pos s'.marks ∧
      next s' = .matched t := by
  induction bound generalizing left last s with
  | zero => exact ⟨s.note, .enough, matched_of_noting h⟩
  | succ bound ih =>
    rw [fewestRounds] at h
    split at h
    · rename_i found hfound
      cases h
      exact ⟨s.note, .enough, hfound⟩
    · rename_i noted marks hfailed
      dsimp only at h
      split_ifs at h
      · cases h
      · obtain ⟨s₁, hround, h⟩ := hrun _ _ _ (matched_of_noting h)
        obtain ⟨s₂, hrest, h⟩ := ih _ _ h
        exact ⟨s₂, .again (s.unsettled_retry inRound _ _) (.round hround hrest), h⟩

/-- A round that is not taken back ends where it notes its place. -/
theorem Runner.Follows.of_done {way : Nat → Marks → Nat → Marks → Prop} (hrun : run.Follows way)
    (h : run done s = .matched t) : way s.pos s.marks t.pos t.marks ∧ t.noted = t.pos := by
  obtain ⟨s', hway, h⟩ := hrun _ _ _ h
  cases h
  exact ⟨hway, rfl⟩

theorem way_of_fixedRounds
    (hrun : run.Follows (Way (inRound || Greed.possessive != .possessive) body)) (n : Nat)
    (h : fixedRounds run n s = .matched t) (hnoted : s.noted = s.pos) :
    t.noted = t.pos ∧ ∀ q m, Way inRound (.loop 0 most .possessive body) t.pos t.marks q m →
      Way inRound (.loop n most .possessive body) s.pos s.marks q m := by
  induction n generalizing s with
  | zero =>
    cases h
    exact ⟨hnoted, fun _ _ => id⟩
  | succ n ih =>
    rw [fixedRounds] at h
    split at h
    · rename_i found hfound
      obtain ⟨hround, hnoted'⟩ := hrun.of_done hfound
      obtain ⟨ht, hrest⟩ := ih h hnoted'
      exact ⟨ht, fun q m hway => .round hround (hrest q m hway)⟩
    · cases h

/-- A round that fails is left, unless it looks around, at no place before the one where it
begins. -/
theorem way_of_afterFailure (r : Release) {noted : Nat}
    (hnoted : body.looksAround = true ∨ s.pos ≤ noted) :
    Way inRound (.loop 0 most .possessive body) s.pos s.marks (r.afterFailure s noted).pos
      (r.afterFailure s noted).marks := by
  cases r with
  | early => exact .left hnoted
  | late => exact .enough

/-- So do all rounds that are not taken back. -/
theorem way_of_allRounds [Engine]
    (hrun : run.Follows (Way (inRound || Greed.possessive != .possessive) body))
    (hfailed : ∀ (s : State) noted marks, run done s = .failed noted marks → s.noted = s.pos →
      body.looksAround = true ∨ s.pos ≤ noted) (size bound : Nat) (left : Option Nat)
    (hnoted : s.noted = s.pos) :
    Way inRound (.loop 0 most .possessive body) s.pos s.marks
      (allRounds size run bound left s).pos (allRounds size run bound left s).marks := by
  induction bound generalizing left s with
  | zero => exact .enough
  | succ bound ih =>
    rw [allRounds]
    split_ifs
    · exact .enough
    · cases hround : run done s with
      | matched s' =>
        obtain ⟨hway, hnoted'⟩ := hrun.of_done hround
        dsimp only
        split_ifs
        · exact .round hway .enough
        · exact .round hway (ih _ hnoted')
      -- the failed round may decide where the repetition ends, but its marks are dropped
      | failed noted marks => exact way_of_afterFailure _ (hfailed s noted marks hround hnoted)

theorem follows_loopRun [Engine] {text : Array Char} {greed : Greed} (least : Nat)
    (hrun : run.Follows (Way (inRound || greed != .possessive) body))
    (hfailed : ∀ (s : State) noted marks, run done s = .failed noted marks → s.noted = s.pos →
      body.looksAround = true ∨ s.pos ≤ noted) :
    (loopRun text inRound least most greed run).Follows
      (Way inRound (.loop least most greed body)) := by
  intro next s t h
  cases greed with
  | greedy =>
    exact exists_of_rounds hrun (fun s h => exists_of_mostRounds hrun _ _ _ h) least h
  | reluctant =>
    exact exists_of_rounds hrun (fun s h => exists_of_fewestRounds hrun _ _ _ h) least h
  | possessive =>
    unfold loopRun at h
    dsimp only at h
    split at h
    · rename_i found hfound
      obtain ⟨hnoted, hrounds⟩ := way_of_fixedRounds hrun least hfound rfl
      exact ⟨_, hrounds _ _ (way_of_allRounds hrun hfailed _ _ _ hnoted), h⟩
    · cases h

end

/-! ## Repetitions of one character -/

/-- What comes after is tried further on, after ways that failed. -/
def Advances (inRound : Bool) (next : Continuation) (s t : State) : Prop :=
  ∃ s' : State, s.pos ≤ s'.pos ∧ s.marks.Unsettled inRound s'.marks ∧ next s' = .matched t

section

variable {inRound : Bool} {next : Continuation} {s t : State}

theorem advances_of_tryOn {count : Nat} (h : tryOn next s count = .matched t) :
    Advances inRound next s t :=
  ⟨s.goTo (s.pos + count), Nat.le_add_right s.pos count, .refl inRound s.marks, h⟩

/-- Either the first way has led on, or the second one has. -/
theorem matched_of_orElse {first : Outcome} (h : s.orElse inRound first next = .matched t) :
    first = .matched t ∨ ∃ noted marks, next (s.retry inRound noted marks) = .matched t := by
  cases first with
  | matched s' => exact Or.inl h
  | failed noted marks => exact Or.inr ⟨noted, marks, h⟩

theorem Advances.of_retry {noted : Nat} {marks : Marks}
    (h : Advances inRound next (s.retry inRound noted marks) t) : Advances inRound next s t := by
  obtain ⟨s', hpos, hmarks, h⟩ := h
  exact ⟨s', hpos, (s.unsettled_retry inRound noted marks).trans hmarks, h⟩

theorem advances_of_stepBack {text : Array Char} {after : Option Nat} {least extra : Nat}
    (h : stepBack text inRound after next least extra s = .matched t) :
    Advances inRound next s t := by
  have htry : ∀ (s : State) count,
      (if standsAt text after (s.pos + count) then tryOn next s count else s.fail) = .matched t →
        Advances inRound next s t := by
    intro s count h
    split_ifs at h
    · exact advances_of_tryOn h
    · cases h
  induction extra generalizing s with
  | zero =>
    rcases matched_of_orElse h with h | ⟨noted, marks, h⟩
    · exact htry s least h
    · cases h
  | succ extra ih =>
    rcases matched_of_orElse h with h | ⟨noted, marks, h⟩
    · exact htry s _ h
    · exact (ih h).of_retry

theorem advances_of_stepOn {ending : Continuation} {more count : Nat}
    (hending : ∀ s, ending s ≠ .matched t)
    (h : stepOn inRound next ending more count s = .matched t) : Advances inRound next s t := by
  induction more generalizing count s with
  | zero =>
    rcases matched_of_orElse h with h | ⟨noted, marks, h⟩
    · exact advances_of_tryOn h
    · exact absurd h (hending _)
  | succ more ih =>
    rcases matched_of_orElse h with h | ⟨noted, marks, h⟩
    · exact advances_of_tryOn h
    · exact (ih h).of_retry

theorem marks_counted (set : CharSet) (s : State) (count : Nat) :
    (counted set s count).marks = s.marks := by
  unfold counted
  split_ifs <;> rfl

theorem Advances.of_counted {set : CharSet} {count : Nat}
    (h : Advances inRound next (counted set s count) t) : Advances inRound next s t := by
  unfold Advances at h
  rwa [Node.pos_counted, marks_counted] at h

theorem advances_of_charLoop {text : Array Char} {after : Option Nat} {set : CharSet} {least : Nat}
    {most : Option Nat} {greed : Greed}
    (h : charLoop text inRound after set least most greed next s = .matched t) :
    Advances inRound next s t := by
  unfold charLoop at h
  by_cases hleft : text.size - s.pos < least
  · rw [if_pos hleft] at h
    cases h
  · rw [if_neg hleft] at h
    dsimp only at h
    -- how many characters are taken does not matter, only that matching goes on behind them
    generalize runLength text set (allowance text most s) 0 s.pos = available at h
    cases greed with
    | greedy =>
      dsimp only at h
      split_ifs at h
      · cases h
      · exact (advances_of_stepBack h).of_counted
    | reluctant =>
      dsimp only at h
      split_ifs at h
      · cases h
      · exact (advances_of_stepOn (fun _ => Outcome.noConfusion) h).of_counted
    | possessive =>
      dsimp only at h
      split_ifs at h
      · cases h
      · refine ⟨_, ?_, ?_, h⟩
        · show s.pos ≤ (counted set s available).pos + available
          rw [Node.pos_counted]
          exact Nat.le_add_right _ _
        · show s.marks.Unsettled inRound (counted set s available).marks
          rw [marks_counted]
          exact .refl inRound s.marks

end

/-! ## Trees -/

namespace Node

theorem follows_lookRun {inRound negated : Bool} {side : Side} {body : Node} {run : Runner}
    (hrun : run.Follows (Way inRound body)) (width : Nat) :
    (lookRun inRound negated width (run done)).Follows (Way inRound (.look side negated body)) := by
  intro next s t h
  unfold lookRun at h
  split_ifs at h
  · exact ⟨s, .unseen (.refl inRound s.marks), h⟩
  · cases h
  · cases hbody : run done (s.goTo (s.pos - width)) with
    | matched found =>
      rw [hbody] at h
      cases negated with
      | false => exact ⟨{ found with pos := s.pos }, .seen (hrun.of_done hbody).1, h⟩
      | true => cases h
    | failed noted marks =>
      rw [hbody] at h
      cases negated with
      | false => cases h
      | true =>
        exact ⟨s.retry inRound noted marks, .unseen (s.unsettled_retry inRound noted marks), h⟩

section

variable [Engine] {text : Array Char} {inRound : Bool} {after : Option CharSet}

theorem follows_one (set : CharSet) :
    ((one set).run text inRound after).Follows (Way inRound (one set)) := by
  intro next s t h
  rw [run] at h
  split at h
  · split_ifs at h
    · exact ⟨_, .one, h⟩
    · cases h
  · cases h

theorem follows_place (which : Place) :
    ((place which).run text inRound after).Follows (Way inRound (place which)) := by
  intro next s t h
  rw [run] at h
  split_ifs at h
  · exact ⟨s, .place, h⟩
  · cases h

theorem follows_seq {first second : Node}
    (hfirst : ∀ after, (first.run text inRound after).Follows (Way inRound first))
    (hsecond : (second.run text inRound after).Follows (Way inRound second)) :
    ((seq first second).run text inRound after).Follows (Way inRound (seq first second)) := by
  intro next s t h
  obtain ⟨s₁, hway, h⟩ := hfirst _ _ _ _ h
  obtain ⟨s₂, hway', h⟩ := hsecond _ _ _ h
  exact ⟨s₂, .seq hway hway', h⟩

theorem follows_either {first rest : Node}
    (hfirst : (first.run text inRound none).Follows (Way inRound first))
    (hrest : (rest.run text inRound none).Follows (Way inRound rest)) :
    ((either first rest).run text inRound after).Follows (Way inRound (either first rest)) := by
  intro next s t h
  rw [run] at h
  split_ifs at h
  · obtain ⟨s', hway, h⟩ := hrest _ _ _ h
    exact ⟨s', .rest (.refl inRound s.marks) hway, h⟩
  · rcases matched_of_orElse h with h | ⟨noted, marks, h⟩
    · obtain ⟨s', hway, h⟩ := hfirst _ _ _ h
      exact ⟨s', .first hway, h⟩
    · obtain ⟨s', hway, h⟩ := hrest _ _ _ h
      exact ⟨s', .rest (s.unsettled_retry inRound noted marks) hway, h⟩

theorem follows_group {body : Node} (hbody : (body.run text inRound none).Follows (Way inRound body))
    (index : Nat) :
    ((group index body).run text inRound after).Follows (Way inRound (group index body)) := by
  intro next s t h
  obtain ⟨s', hway, h⟩ := hbody _ _ _ h
  exact ⟨s'.leave index, .group hway, h⟩

theorem follows_scope {body : Node}
    (hbody : (body.run text inRound after).Follows (Way inRound body)) :
    ((scope body).run text inRound after).Follows (Way inRound (scope body)) := by
  intro next s t h
  obtain ⟨s', hway, h⟩ := hbody _ _ _ h
  exact ⟨s', .scope hway, h⟩

theorem follows_backref (index : Nat) (rule : CaseRule) :
    ((backref index rule).run text inRound after).Follows (Way inRound (backref index rule)) := by
  intro next s t h
  rw [run] at h
  split at h
  · rename_i start stop hspan
    split_ifs at h
    · exact ⟨{ s with pos := s.pos + (stop - start) }, .backref (Nat.le_add_right _ _), h⟩
    · cases h
  · cases h

theorem follows_given {yes no : Node}
    (hyes : ∀ after, (yes.run text inRound after).Follows (Way inRound yes))
    (hno : (no.run text inRound after).Follows (Way inRound no)) (index : Nat) :
    ((given index yes no).run text inRound after).Follows (Way inRound (given index yes no)) := by
  intro next s t h
  rw [run] at h
  split at h
  · obtain ⟨s', hway, h⟩ := hyes _ _ _ _ h
    exact ⟨s', .yes hway, h⟩
  · obtain ⟨s', hway, h⟩ := hno _ _ _ h
    exact ⟨s', .no hway, h⟩

theorem follows_atomic {body : Node}
    (hbody : (body.run text inRound none).Follows (Way inRound body)) :
    ((atomic body).run text inRound after).Follows (Way inRound (atomic body)) := by
  intro next s t h
  rw [run] at h
  split at h
  · rename_i found hfound
    exact ⟨found, .atomic (hbody.of_done hfound).1, h⟩
  · cases h

theorem follows_loop {body : Node}
    (hbody : ∀ inRound, (body.run text inRound none).Follows (Way inRound body)) (least : Nat)
    (most : Option Nat) (greed : Greed) :
    ((loop least most greed body).run text inRound after).Follows
      (Way inRound (loop least most greed body)) := by
  intro next s t h
  rw [run] at h
  split at h
  · rename_i set hset
    obtain ⟨s', hpos, hmarks, h⟩ := advances_of_charLoop h
    exact ⟨s', .chars hset hpos hmarks, h⟩
  · refine follows_loopRun least (hbody _) ?_ next s t h
    -- a failed round of a body that does not look around has noted no place before it
    intro s noted marks hfailed hnoted
    cases hlook : body.looksAround with
    | true => exact Or.inl rfl
    | false => exact Or.inr (pos_le_noted hlook hnoted hfailed)

end

/-- **A match has taken a way through the tree.** What comes after a tree leads to a match only at
the end of a way through the tree. -/
theorem follows_run [Engine] (text : Array Char) (node : Node) (inRound : Bool)
    (after : Option CharSet) :
    (node.run text inRound after).Follows (Way inRound node) := by
  induction node generalizing inRound after with
  | empty => exact fun next s t h => ⟨s, .empty, h⟩
  | one set => exact follows_one set
  | place which => exact follows_place which
  | seq first second ih₁ ih₂ => exact follows_seq (ih₁ inRound) (ih₂ inRound after)
  | never =>
    intro next s t h
    cases h
  | either first rest ih₁ ih₂ => exact follows_either (ih₁ inRound none) (ih₂ inRound none)
  | group index body ih => exact follows_group (ih inRound none) index
  | scope body ih => exact follows_scope (ih inRound after)
  | backref index rule => exact follows_backref index rule
  | given index yes no ih₁ ih₂ => exact follows_given (ih₁ inRound) (ih₂ inRound after) index
  | look side negated body ih => exact follows_lookRun (ih inRound none) side.width
  | atomic body ih => exact follows_atomic (ih inRound none)
  | loop least most greed body ih =>
    exact follows_loop (fun inRound => ih inRound none) least most greed

theorem way_of_matchAt [Engine] {root : Node} {text : Array Char} {pos stop : Nat} {marks : Marks}
    (h : root.matchAt text pos = some (stop, marks)) : Way false root pos {} stop marks := by
  unfold matchAt at h
  split at h
  · rename_i found hfound
    cases h
    exact ((follows_run text root false none).of_done hfound).1
  · cases h

end Node

end ProblemMatcher.Regex
