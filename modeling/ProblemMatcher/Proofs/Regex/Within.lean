import ProblemMatcher.Proofs.Regex.CharEnds
import ProblemMatcher.Proofs.Regex.Groups
import ProblemMatcher.Regex

/-!
# Matching stays within the text

Every place that matching comes to lies within the text, and so does every place that it notes: a
failure leaves the place last noted behind, and the early release of the engine goes on from there
with a possessive repetition. A match therefore begins and ends within the text. Whether it ends
behind its beginning is another matter, since what looks behind goes back. A tree that does not look
around only goes forward, so that its places lie between the one where it begins and the end of the
text.

1. `State.IsWithin`, `Outcome.IsWithin`: where matching may stand and what it may lead to.
2. `Runner.KeepsWithin`: what a tree has to do, shown for the rounds of a repetition first.
3. `Node.keepsWithin_run`: every tree does it, by induction on the tree.
4. `Node.pos_le_noted`: a tree that does not look around notes no place before the one it is at.
5. `exists_of_search`, `search_within`: a match that is found is one of the tree, within the text.
-/

namespace ProblemMatcher.Regex

/-! ## Places -/

/-- The place and the place last noted lie between the two given. -/
structure State.IsWithin (low high : Nat) (s : State) : Prop where
  pos : low ≤ s.pos ∧ s.pos ≤ high
  noted : low ≤ s.noted ∧ s.noted ≤ high

/-- A match ends within these places; a failure has noted one of them. -/
def Outcome.IsWithin (low high : Nat) : Outcome → Prop
  | .matched s => s.IsWithin low high
  | .failed noted _ => low ≤ noted ∧ noted ≤ high

/-- From these places nothing leads out of them. -/
def Continuation.KeepsWithin (low high : Nat) (next : Continuation) : Prop :=
  ∀ s, s.IsWithin low high → (next s).IsWithin low high

/-- A tree stays at these places if what comes after it does. -/
def Runner.KeepsWithin (low high : Nat) (body : Runner) : Prop :=
  ∀ next, Continuation.KeepsWithin low high next → Continuation.KeepsWithin low high (body next)

section

variable {low high : Nat} {s : State}

theorem State.IsWithin.note (h : s.IsWithin low high) : s.note.IsWithin low high :=
  ⟨h.pos, h.pos⟩

theorem State.isWithin_goTo {pos : Nat} (h : low ≤ pos ∧ pos ≤ high) :
    (s.goTo pos).IsWithin low high :=
  ⟨h, h⟩

theorem State.IsWithin.retry (h : s.IsWithin low high) {noted : Nat}
    (hnoted : low ≤ noted ∧ noted ≤ high) (inRound : Bool) (marks : Marks) :
    (s.retry inRound noted marks).IsWithin low high :=
  ⟨h.pos, hnoted⟩

theorem State.IsWithin.fail (h : s.IsWithin low high) : s.fail.IsWithin low high :=
  h.noted

/-- The next way is tried at the same place. -/
theorem State.IsWithin.orElse (h : s.IsWithin low high) {first : Outcome} {next : Continuation}
    (hfirst : first.IsWithin low high)
    (hnext : ∀ s' : State, s'.IsWithin low high → s'.pos = s.pos → (next s').IsWithin low high)
    (inRound : Bool) : (s.orElse inRound first next).IsWithin low high := by
  cases first with
  | matched s' => exact hfirst
  | failed noted marks => exact hnext _ (h.retry hfirst inRound marks) rfl

theorem Outcome.IsWithin.noting {o : Outcome} (h : o.IsWithin low high) {pos : Nat}
    (hpos : low ≤ pos ∧ pos ≤ high) : (o.noting pos).IsWithin low high := by
  cases o with
  | matched s => exact h
  | failed => exact hpos

theorem keepsWithin_done : Continuation.KeepsWithin low high done :=
  fun _ h => h.note

end

/-! ## Rounds -/

section

variable {low high : Nat} {body : Runner} {next : Continuation}

theorem keepsWithin_rounds (hbody : body.KeepsWithin low high)
    (hnext : Continuation.KeepsWithin low high next) (n : Nat) :
    Continuation.KeepsWithin low high (rounds body next n) := by
  induction n with
  | zero => exact hnext
  | succ n ih => exact fun s hs => (hbody _ ih s.note hs.note).noting hs.pos

theorem keepsWithin_mostRounds (hbody : body.KeepsWithin low high)
    (hnext : Continuation.KeepsWithin low high next) (bound : Nat) (left last : Option Nat) :
    Continuation.KeepsWithin low high (mostRounds body next bound left last) := by
  have hend : ∀ s : State, s.IsWithin low high → ((next s.note).noting s.pos).IsWithin low high :=
    fun s hs => (hnext _ hs.note).noting hs.pos
  -- on the number of rounds left, since a round runs with the later ones as what comes after it
  induction bound generalizing left last with
  | zero => exact hend
  | succ bound ih =>
    intro s hs
    rw [mostRounds]
    split_ifs
    · exact hend s hs
    · have hround := hbody _ (ih (left.map (· - 1)) (some s.pos)) s.note hs.note
      split
      · rename_i found hfound
        rw [hfound] at hround
        exact hround
      · exact hend s hs

theorem keepsWithin_fewestRounds (hbody : body.KeepsWithin low high)
    (hnext : Continuation.KeepsWithin low high next) (inRound : Bool) (bound : Nat)
    (left last : Option Nat) :
    Continuation.KeepsWithin low high (fewestRounds inRound body next bound left last) := by
  induction bound generalizing left last with
  | zero => exact fun s hs => (hnext _ hs.note).noting hs.pos
  | succ bound ih =>
    intro s hs
    have hfirst := hnext s.note hs.note
    rw [fewestRounds]
    split
    · rename_i found hfound
      rw [hfound] at hfirst
      exact hfirst
    · rename_i noted marks hfailed
      have hretry := hs.retry hs.pos inRound marks
      dsimp only
      split_ifs
      · exact hretry.fail
      · exact (hbody _ (ih _ _) _ hretry).noting hretry.pos

theorem isWithin_fixedRounds (hbody : body.KeepsWithin low high) (n : Nat) {s : State}
    (hs : s.IsWithin low high) : (fixedRounds body n s).IsWithin low high := by
  induction n generalizing s with
  | zero => exact hs
  | succ n ih =>
    have hround := hbody done keepsWithin_done s hs
    rw [fixedRounds]
    split
    · rename_i found hfound
      rw [hfound] at hround
      exact ih hround
    · rename_i noted marks hfailed
      rw [hfailed] at hround
      exact hround

/-- A round that fails may be left at the place that it has last noted, which is why these are looked
at as well. -/
theorem State.IsWithin.afterFailure (h : s.IsWithin low high) {noted : Nat}
    (hnoted : low ≤ noted ∧ noted ≤ high) (r : Release) :
    (r.afterFailure s noted).IsWithin low high := by
  cases r with
  | early => exact State.isWithin_goTo hnoted
  | late => exact h

theorem isWithin_allRounds [Engine] (hbody : body.KeepsWithin low high) (size bound : Nat)
    (left : Option Nat) {s : State} (hs : s.IsWithin low high) :
    (allRounds size body bound left s).IsWithin low high := by
  induction bound generalizing left s with
  | zero => exact hs
  | succ bound ih =>
    have hround := hbody done keepsWithin_done s hs
    rw [allRounds]
    split_ifs
    · exact hs
    · split
      · rename_i found hfound
        rw [hfound] at hround
        split_ifs
        · exact hround
        · exact ih _ hround
      · rename_i noted marks hfailed
        rw [hfailed] at hround
        exact hs.afterFailure hround _

theorem keepsWithin_loopRun [Engine] {text : Array Char} (hbody : body.KeepsWithin low high)
    (inRound : Bool) (least : Nat) (most : Option Nat) (greed : Greed) :
    (loopRun text inRound least most greed body).KeepsWithin low high := by
  intro next hnext s hs
  cases greed with
  | greedy => exact keepsWithin_rounds hbody (keepsWithin_mostRounds hbody hnext _ _ _) least s hs
  | reluctant =>
    exact keepsWithin_rounds hbody (keepsWithin_fewestRounds hbody hnext inRound _ _ _) least s hs
  | possessive =>
    have hfixed := isWithin_fixedRounds hbody least hs.note
    unfold loopRun
    dsimp only
    split
    · rename_i found hfound
      rw [hfound] at hfixed
      exact hnext _ (isWithin_allRounds hbody _ _ _ hfixed)
    · exact hs.pos

end

/-! ## Repetitions of one character -/

section

variable {low high : Nat} {text : Array Char} {set : CharSet} {next : Continuation}

theorem isWithin_tryOn (hnext : Continuation.KeepsWithin low high next) {s : State}
    {count : Nat} (hs : s.IsWithin low high) (h : s.pos + count ≤ high) :
    (tryOn next s count).IsWithin low high :=
  hnext _ (State.isWithin_goTo ⟨Nat.le_add_right_of_le hs.pos.1, h⟩)

theorem isWithin_stepBack (hnext : Continuation.KeepsWithin low high next) (inRound : Bool)
    (after : Option Nat) (least extra : Nat) {s : State} (hs : s.IsWithin low high)
    (h : s.pos + (least + extra) ≤ high) :
    (stepBack text inRound after next least extra s).IsWithin low high := by
  have htry : ∀ (s : State) count, s.IsWithin low high → s.pos + count ≤ high →
      (if standsAt text after (s.pos + count) then tryOn next s count else s.fail).IsWithin low
        high := by
    intro s count hs hcount
    split_ifs
    · exact isWithin_tryOn hnext hs hcount
    · exact hs.fail
  -- the state changes with every place that fails, its place does not
  induction extra generalizing s with
  | zero => exact hs.orElse (htry s least hs h) (fun _ hs' _ => hs'.fail) inRound
  | succ extra ih =>
    refine hs.orElse (htry s (least + (extra + 1)) hs h) (fun s' hs' hpos => ih hs' ?_) inRound
    rw [hpos]
    omega

theorem isWithin_stepOn (hnext : Continuation.KeepsWithin low high next) (inRound : Bool)
    {ending : Continuation} {more count : Nat} {s : State}
    (hending : ∀ s' : State, s'.IsWithin low high → s'.pos = s.pos → (ending s').IsWithin low high)
    (hs : s.IsWithin low high) (h : s.pos + (count + more) ≤ high) :
    (stepOn inRound next ending more count s).IsWithin low high := by
  induction more generalizing count s with
  | zero => exact hs.orElse (isWithin_tryOn hnext hs h) hending inRound
  | succ more ih =>
    have htry : (tryOn next s count).IsWithin low high := isWithin_tryOn hnext hs (by omega)
    refine hs.orElse htry (fun s' hs' hpos => ih ?_ hs' (by omega)) inRound
    intro s'' hs'' hpos'
    exact hending s'' hs'' (hpos'.trans hpos)

theorem isWithin_counted {s : State} (set : CharSet) (hs : s.IsWithin low high)
    (count : Nat) (h : s.pos + count ≤ high) : (counted set s count).IsWithin low high := by
  unfold counted
  split_ifs
  · exact ⟨hs.pos, Nat.le_add_right_of_le hs.pos.1, h⟩
  · exact hs.note

/-- Looking one character further than a run does not lead out of the text. -/
theorem isWithin_ending (hhigh : text.size ≤ high) {s : State} (set : CharSet)
    (hs : s.IsWithin low high) {available : Nat} (h : s.pos + available ≤ high) :
    (counted set { s with pos := s.pos + available }
      (runLength text set 1 available (s.pos + available) - available)).IsWithin low high := by
  have hmoved : State.IsWithin low high { s with pos := s.pos + available } :=
    ⟨⟨Nat.le_add_right_of_le hs.pos.1, h⟩, hs.noted⟩
  have hfurther : runLength text set 1 0 (s.pos + available) ≤ text.size - (s.pos + available) :=
    Node.runLength_le_size _ _
  refine isWithin_counted set hmoved _ ?_
  rw [Node.runLength_eq_add, Nat.add_sub_cancel_left]
  dsimp only
  omega

theorem keepsWithin_charLoop (hhigh : text.size ≤ high) (inRound : Bool) (after : Option Nat)
    (set : CharSet) (least : Nat) (most : Option Nat) (greed : Greed) :
    (charLoop text inRound after set least most greed).KeepsWithin low high := by
  intro next hnext s hs
  unfold charLoop
  split_ifs
  · exact hs.fail
  · have havailable : runLength text set (allowance text most s) 0 s.pos ≤ text.size - s.pos :=
      Node.runLength_le_size _ _
    dsimp only
    -- that a run ends within the text is all that is needed of its length
    generalize runLength text set (allowance text most s) 0 s.pos = available at havailable ⊢
    have hpos := hs.pos
    cases greed with
    | greedy =>
      have hcounted := isWithin_counted set hs available (by omega)
      dsimp only
      split_ifs
      · exact hcounted.fail
      · refine isWithin_stepBack hnext inRound after least _ hcounted ?_
        rw [Node.pos_counted]
        omega
    | reluctant =>
      have hcounted := isWithin_counted set hs (min least available) (by omega)
      dsimp only
      split_ifs
      · exact hcounted.fail
      · refine isWithin_stepOn hnext inRound ?_ hcounted ?_
        · intro s' hs' hpos'
          rw [← hpos']
          refine (isWithin_ending hhigh set hs' ?_).fail
          rw [hpos', Node.pos_counted]
          omega
        · rw [Node.pos_counted]
          omega
    | possessive =>
      have hcounted := isWithin_counted set hs available (by omega)
      dsimp only
      split_ifs
      · exact hcounted.fail
      · refine hnext _ ⟨?_, hcounted.noted⟩
        show low ≤ (counted set s available).pos + available ∧
          (counted set s available).pos + available ≤ high
        rw [Node.pos_counted]
        omega

end

/-! ## Trees -/

/-- A stretch of the text that stands again at a place ends within the text. -/
theorem add_le_of_repeats {text : Array Char} {high : Nat} (hhigh : text.size ≤ high)
    {rule : CaseRule} {length start pos : Nat} (h : repeats text rule length start pos = true)
    (hpos : pos ≤ high) : pos + length ≤ high := by
  induction length generalizing start pos with
  | zero => exact hpos
  | succ length ih =>
    rw [repeats] at h
    split at h
    · rename_i hat
      have hlt := (Array.getElem?_eq_some_iff.mp hat).1
      have hrest := ih (Bool.and_eq_true_iff.mp h).2 (Nat.le_trans hlt hhigh)
      omega
    · cases h

/-- What looks behind may go back to any place. -/
theorem keepsWithin_lookRun {high : Nat} (inRound negated : Bool) (width : Nat)
    {body : Continuation} (hbody : Continuation.KeepsWithin 0 high body) :
    (lookRun inRound negated width body).KeepsWithin 0 high := by
  intro next hnext s hs
  have hlook := hbody (s.goTo (s.pos - width))
    (State.isWithin_goTo ⟨Nat.zero_le _, Nat.le_trans (Nat.sub_le _ _) hs.pos.2⟩)
  unfold lookRun
  split_ifs
  · exact hnext s hs
  · exact hs.fail
  · cases hfound : body (s.goTo (s.pos - width)) with
    | matched found =>
      rw [hfound] at hlook
      cases negated with
      | false => exact hnext _ ⟨hs.pos, hlook.noted⟩
      | true => exact hlook.noted
    | failed noted marks =>
      rw [hfound] at hlook
      cases negated with
      | false => exact hlook
      | true => exact hnext _ (hs.retry hlook inRound marks)

namespace Node

section

variable [Engine] {text : Array Char} {low high : Nat} {inRound : Bool} {after : Option CharSet}

theorem keepsWithin_one (hhigh : text.size ≤ high) (set : CharSet) :
    ((one set).run text inRound after).KeepsWithin low high := by
  intro next hnext s hs
  rw [run]
  split
  · rename_i hat
    have hlt := Nat.le_trans (Array.getElem?_eq_some_iff.mp hat).1 hhigh
    split_ifs
    · exact hnext _ ⟨⟨Nat.le_add_right_of_le hs.pos.1, hlt⟩, hs.noted⟩
    · exact hs.fail
  · exact hs.fail

theorem keepsWithin_place (which : Place) :
    ((place which).run text inRound after).KeepsWithin low high := by
  intro next hnext s hs
  rw [run]
  split_ifs
  · exact hnext s hs
  · exact hs.fail

theorem keepsWithin_either {first rest : Node}
    (hfirst : (first.run text inRound none).KeepsWithin low high)
    (hrest : (rest.run text inRound none).KeepsWithin low high) :
    ((either first rest).run text inRound after).KeepsWithin low high := by
  intro next hnext s hs
  rw [run]
  split_ifs
  · exact hrest next hnext s hs
  · exact hs.orElse (hfirst next hnext _ hs.note) (fun s' hs' _ => hrest next hnext s' hs') _

theorem keepsWithin_group {body : Node} (hbody : (body.run text inRound none).KeepsWithin low high)
    (index : Nat) : ((group index body).run text inRound after).KeepsWithin low high := by
  intro next hnext s hs
  have hleave : Continuation.KeepsWithin low high fun s => next (s.leave index) :=
    fun s hs => hnext _ ⟨hs.pos, hs.noted⟩
  exact hbody _ hleave _ ⟨hs.pos, hs.noted⟩

theorem keepsWithin_backref (hhigh : text.size ≤ high) (index : Nat) (rule : CaseRule) :
    ((backref index rule).run text inRound after).KeepsWithin low high := by
  intro next hnext s hs
  rw [run]
  split
  · split_ifs with hrepeats
    · exact hnext _ ⟨⟨Nat.le_add_right_of_le hs.pos.1,
        add_le_of_repeats hhigh hrepeats hs.pos.2⟩, hs.noted⟩
    · exact hs.fail
  · exact hs.fail

theorem keepsWithin_given {yes no : Node}
    (hyes : ∀ after, (yes.run text inRound after).KeepsWithin low high)
    (hno : (no.run text inRound after).KeepsWithin low high) (index : Nat) :
    ((given index yes no).run text inRound after).KeepsWithin low high := by
  intro next hnext s hs
  rw [run]
  split
  · exact hyes _ next hnext s hs
  · exact hno next hnext s hs

theorem keepsWithin_atomic {body : Node}
    (hbody : (body.run text inRound none).KeepsWithin low high) :
    ((atomic body).run text inRound after).KeepsWithin low high := by
  intro next hnext s hs
  have hmatch := hbody done keepsWithin_done s.note hs.note
  rw [run]
  split
  · rename_i found hfound
    rw [hfound] at hmatch
    exact hnext _ hmatch
  · exact hs.pos

theorem keepsWithin_loop (hhigh : text.size ≤ high) {body : Node}
    (hbody : ∀ inRound, (body.run text inRound none).KeepsWithin low high) (least : Nat)
    (most : Option Nat) (greed : Greed) :
    ((loop least most greed body).run text inRound after).KeepsWithin low high := by
  intro next hnext s hs
  rw [run]
  split
  · exact keepsWithin_charLoop hhigh inRound _ _ least most greed next hnext s hs
  · exact keepsWithin_loopRun (hbody _) inRound least most greed next hnext s hs

end

/-- **Matching stays within the text**, and a tree that does not look around goes forward only. -/
theorem keepsWithin_run [Engine] {text : Array Char} (node : Node) {low high : Nat}
    (hhigh : text.size ≤ high) (hlow : low = 0 ∨ node.looksAround = false) (inRound : Bool)
    (after : Option CharSet) : (node.run text inRound after).KeepsWithin low high := by
  -- what is asked of a tree holds of both its parts
  have parts : ∀ {a b : Bool}, low = 0 ∨ (a || b) = false →
      (low = 0 ∨ a = false) ∧ (low = 0 ∨ b = false) := by
    intro a b h
    rw [Bool.or_eq_false_iff] at h
    exact ⟨h.imp_right And.left, h.imp_right And.right⟩
  induction node generalizing inRound after with
  | empty => exact fun next hnext s hs => hnext s hs
  | one set => exact keepsWithin_one hhigh set
  | place which => exact keepsWithin_place which
  | seq first second ih₁ ih₂ =>
    obtain ⟨hfirst, hsecond⟩ := parts hlow
    exact fun next hnext s hs => ih₁ hfirst _ _ _ (ih₂ hsecond _ _ next hnext) s hs
  | never => exact fun next hnext s hs => hs.fail
  | either first rest ih₁ ih₂ =>
    obtain ⟨hfirst, hrest⟩ := parts hlow
    exact keepsWithin_either (ih₁ hfirst _ _) (ih₂ hrest _ _)
  | group index body ih => exact keepsWithin_group (ih hlow _ _) index
  | scope body ih => exact ih hlow _ _
  | backref index rule => exact keepsWithin_backref hhigh index rule
  | given index yes no ih₁ ih₂ =>
    obtain ⟨hyes, hno⟩ := parts hlow
    exact keepsWithin_given (ih₁ hyes _) (ih₂ hno _ _) index
  | look side negated body ih =>
    -- looking behind may lead to any place, so nothing but the text bounds it
    obtain rfl : low = 0 := hlow.resolve_right Bool.noConfusion
    exact keepsWithin_lookRun inRound negated side.width
      (ih (Or.inl rfl) _ _ done keepsWithin_done)
  | atomic body ih => exact keepsWithin_atomic (ih hlow _ _)
  | loop least most greed body ih =>
    exact keepsWithin_loop hhigh (fun inRound => ih hlow inRound none) least most greed

/-- A tree that does not look around notes no place before the one that it is tried at. -/
theorem pos_le_noted [Engine] {text : Array Char} {node : Node} (hlook : node.looksAround = false)
    {inRound : Bool} {after : Option CharSet} {s : State} (hnoted : s.noted = s.pos) {noted : Nat}
    {marks : Marks} (h : node.run text inRound after done s = .failed noted marks) :
    s.pos ≤ noted := by
  have hs : s.IsWithin s.pos (max text.size s.pos) := by
    refine ⟨⟨Nat.le_refl _, Nat.le_max_right ..⟩, ?_⟩
    rw [hnoted]
    exact ⟨Nat.le_refl _, Nat.le_max_right ..⟩
  have hrun := keepsWithin_run node (Nat.le_max_left ..) (Or.inr hlook) inRound after done
    keepsWithin_done s hs
  rw [h] at hrun
  exact hrun.1

end Node

/-! ## Searches -/

namespace Node

theorem le_size_of_matchAt [Engine] {root : Node} {text : Array Char} {pos stop : Nat}
    {marks : Marks} (hpos : pos ≤ text.size) (h : root.matchAt text pos = some (stop, marks)) :
    stop ≤ text.size := by
  have hplace : 0 ≤ pos ∧ pos ≤ text.size := ⟨Nat.zero_le pos, hpos⟩
  have hrun := keepsWithin_run root (Nat.le_refl text.size) (Or.inl rfl) false none done
    keepsWithin_done (.start pos) ⟨hplace, hplace⟩
  unfold matchAt at h
  split at h
  · rename_i found hfound
    rw [hfound] at hrun
    cases h
    exact hrun.pos.2
  · cases h

/-- A search tries the places it is given and no others. -/
theorem matchAt_of_searchFrom [Engine] {root : Node} {opening : Opening} {text : Array Char}
    {count pos start : Nat} {found : Nat × Marks}
    (h : root.searchFrom opening text count pos = some (start, found)) :
    pos ≤ start ∧ start < pos + count ∧ root.matchAt text start = some found := by
  induction count generalizing pos with
  | zero => cases h
  | succ count ih =>
    rw [searchFrom] at h
    split at h
    · rename_i found' hfound
      cases h
      split_ifs at hfound
      exact ⟨Nat.le_refl _, Nat.lt_add_of_pos_right (Nat.succ_pos count), hfound⟩
    · obtain ⟨hle, hlt, hmatch⟩ := ih h
      exact ⟨by omega, by omega, hmatch⟩

end Node

theorem Opening.limit_le (o : Opening) (least size : Nat) : o.limit least size ≤ size + 1 := by
  cases o with
  | anything => exact Nat.sub_le _ _
  | literal | oneOf => exact Nat.le_succ size

/-- A search finds the match of the tree at a place where it looks. -/
theorem exists_of_search [Engine] {r : Regex} {text : Array Char} {pos : Nat} {found : Match}
    (h : r.search text pos = .ok (some found)) :
    ∃ marks, r.root.matchAt text found.start = some (found.stop, marks) ∧
      found.start ≤ text.size ∧
      found.groups = (List.range r.groupCount).map fun i => marks.span? (i + 1) := by
  unfold search at h
  split at h
  · cases h
  · rename_i start stop marks hfind
    split_ifs at h
    cases h
    unfold find at hfind
    split_ifs at hfind
    obtain ⟨hle, hlt, hmatch⟩ := Node.matchAt_of_searchFrom hfind
    have hlimit := Opening.limit_le r.opening r.least text.size
    have hstart : start ≤ text.size := by omega
    exact ⟨marks, hmatch, hstart, rfl⟩

/-- A match that is found begins and ends within the text. -/
theorem search_within [Engine] {r : Regex} {text : Array Char} {pos : Nat} {found : Match}
    (h : r.search text pos = .ok (some found)) :
    found.start ≤ text.size ∧ found.stop ≤ text.size := by
  obtain ⟨marks, hmatch, hstart, -⟩ := exists_of_search h
  exact ⟨hstart, Node.le_size_of_matchAt hstart hmatch⟩

end ProblemMatcher.Regex
