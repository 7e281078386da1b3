import ProblemMatcher.Proofs.Regex.Ends

/-!
# The ends of a repetition of one character

A repetition of one character is not run round by round. It counts how far it may go and tries the
places on the way. These are the ends of the same rounds in the same order, but for the places
where a literal that follows does not stand.

1. `charEnds_eq`: counting comes to the same as going round by round.
2. `charLoop_answers`: the places are tried in order.
-/

namespace ProblemMatcher.Regex.Node

/-! ## Characters in a row -/

section

variable {text : Array Char} {set : CharSet}

theorem runLength_eq_add (limit count pos : Nat) :
    runLength text set limit count pos = count + runLength text set limit 0 pos := by
  induction limit generalizing count pos with
  | zero => rfl
  | succ limit ih =>
    rw [runLength, runLength]
    split
    · split_ifs
      · rw [ih (count + 1), ih (0 + 1)]
        omega
      · rfl
    · rfl

theorem runLength_succ (limit pos : Nat) :
    runLength text set (limit + 1) 0 pos =
      if text[pos]?.any set.holds then runLength text set limit 0 (pos + 1) + 1 else 0 := by
  rw [runLength]
  cases text[pos]? with
  | none => rfl
  | some c => rw [runLength_eq_add limit (0 + 1), Option.any_some, Nat.zero_add, Nat.add_comm 1]

theorem runLength_le_limit (limit pos : Nat) : runLength text set limit 0 pos ≤ limit := by
  induction limit generalizing pos with
  | zero => exact Nat.le_refl 0
  | succ limit ih =>
    rw [runLength_succ]
    split_ifs
    · exact Nat.succ_le_succ (ih (pos + 1))
    · exact Nat.zero_le _

theorem runLength_le_size (limit pos : Nat) :
    runLength text set limit 0 pos ≤ text.size - pos := by
  induction limit generalizing pos with
  | zero => exact Nat.zero_le _
  | succ limit ih =>
    rw [runLength_succ]
    split_ifs with h
    · have hnext := ih (pos + 1)
      have hpos := lt_size_of_any h
      omega
    · exact Nat.zero_le _

theorem runLength_min {n limit : Nat} (h : n ≤ limit) (pos : Nat) :
    runLength text set n 0 pos = min n (runLength text set limit 0 pos) := by
  induction n generalizing limit pos with
  | zero => exact (Nat.zero_min _).symm
  | succ n ih =>
    obtain ⟨limit, rfl⟩ : ∃ l, limit = l + 1 := ⟨limit - 1, by omega⟩
    rw [runLength_succ, runLength_succ]
    split_ifs
    · rw [ih (Nat.le_of_succ_le_succ h), Nat.succ_min_succ]
    · rfl

theorem runLength_split {n limit pos : Nat} (h : n ≤ runLength text set limit 0 pos) :
    runLength text set limit 0 pos = n + runLength text set (limit - n) 0 (pos + n) := by
  induction n generalizing limit pos with
  | zero => exact (Nat.zero_add _).symm
  | succ n ih =>
    cases limit with
    | zero => cases h
    | succ limit =>
      rw [runLength_succ] at h ⊢
      split_ifs at h ⊢
      · rw [ih (Nat.le_of_succ_le_succ h), Nat.add_sub_add_right, Nat.add_right_comm pos,
          Nat.add_assoc pos, Nat.add_right_comm n]
      · cases h

/-! ## The ends of one character, repeated -/

/-- The places up to so many characters on, the furthest first. -/
def downTo (pos : Nat) : Nat → List Nat
  | 0 => [pos]
  | n + 1 => (pos + (n + 1)) :: downTo pos n

/-- The places up to so many characters on, the nearest first. -/
def upFrom (pos : Nat) : Nat → List Nat
  | 0 => [pos]
  | n + 1 => pos :: upFrom (pos + 1) n

theorem downTo_succ (pos n : Nat) : downTo (pos + 1) n ++ [pos] = downTo pos (n + 1) := by
  induction n with
  | zero => rfl
  | succ n ih =>
    rw [downTo, List.cons_append, ih, Nat.add_right_comm, Nat.add_assoc]
    rfl

/-- The places up to so many characters on, in either order. -/
def upTo (fewest : Bool) (pos n : Nat) : List Nat :=
  bif fewest then upFrom pos n else downTo pos n

theorem upTo_zero (fewest : Bool) (pos : Nat) : upTo fewest pos 0 = [pos] := by
  cases fewest <;> rfl

theorem upTo_succ (fewest : Bool) (pos n : Nat) :
    upTo fewest pos (n + 1) =
      bif fewest then pos :: upTo fewest (pos + 1) n else upTo fewest (pos + 1) n ++ [pos] := by
  cases fewest with
  | true => rfl
  | false => exact (downTo_succ pos n).symm

theorem repeatEnds_oneEnd (n pos : Nat) :
    repeatEnds (oneEnd text set) n pos =
      if runLength text set n 0 pos = n then [pos + n] else [] := by
  induction n generalizing pos with
  | zero => rfl
  | succ n ih =>
    rw [repeatEnds, oneEnd, runLength_succ]
    split_ifs with hc hn hn
    · rw [List.flatMap_singleton, ih, if_pos (Nat.succ.inj hn), Nat.add_right_comm, Nat.add_assoc]
    · rw [List.flatMap_singleton, ih, if_neg fun h => hn (congrArg Nat.succ h)]
    · cases hn
    · rfl

/-- One round of a character takes one from what is left. -/
theorem allowance_succ {left : Option Nat} {pos : Nat} (hleft : left ≠ some 0)
    (hpos : pos < text.size) :
    allowance text left (.start pos) =
      allowance text (left.map (· - 1)) (.start (pos + 1)) + 1 := by
  cases left with
  | none =>
    show text.size - pos = text.size - (pos + 1) + 1
    omega
  | some m =>
    have hm : m ≠ 0 := fun h => hleft (congrArg some h)
    show min m (text.size - pos) = min (m - 1) (text.size - (pos + 1)) + 1
    omega

theorem runLength_round {left : Option Nat} {pos : Nat} (hleft : left ≠ some 0)
    (h : text[pos]?.any set.holds = true) :
    runLength text set (allowance text left (.start pos)) 0 pos =
      runLength text set (allowance text (left.map (· - 1)) (.start (pos + 1))) 0 (pos + 1) + 1 := by
  rw [allowance_succ hleft (lt_size_of_any h), runLength_succ, if_pos h]

theorem runLength_stop {limit pos : Nat} (h : ¬text[pos]?.any set.holds = true) :
    runLength text set limit 0 pos = 0 := by
  cases limit with
  | zero => rfl
  | succ limit => rw [runLength_succ, if_neg h]

theorem isSpent_iff {left last : Option Nat} {pos : Nat} (hlast : last ≠ some pos) :
    isSpent left last (.start pos) = true ↔ left = some 0 := by
  have h : (last == some pos) = false := beq_false_of_ne hlast
  show (left == some 0 || last == some pos) = true ↔ _
  rw [h, Bool.or_false, beq_iff_eq]

theorem allowance_zero (pos : Nat) : allowance text (some 0) (.start pos) = 0 :=
  Nat.zero_min _

theorem optionalEnds_oneEnd (fewest : Bool) {bound pos : Nat} {left last : Option Nat}
    (hlast : last ≠ some pos) (hbound : text.size - pos ≤ bound) :
    optionalEnds (oneEnd text set) fewest bound left last pos =
      upTo fewest pos (runLength text set (allowance text left (.start pos)) 0 pos) := by
  -- a round begins behind the one before, so `last` never ends the repetition
  induction bound generalizing left last pos with
  | zero =>
    have hrun : runLength text set (allowance text left (.start pos)) 0 pos ≤ text.size - pos :=
      runLength_le_size _ _
    rw [Nat.le_zero.mp (Nat.le_trans hrun hbound), upTo_zero]
    rfl
  | succ bound ih =>
    cases hspent : isSpent left last (.start pos) with
    | true =>
      rw [optionalEnds_of_isSpent hspent, (isSpent_iff hlast).mp hspent, allowance_zero]
      exact (upTo_zero fewest pos).symm
    | false =>
      have hleft : left ≠ some 0 := fun h =>
        Bool.noConfusion (hspent.symm.trans ((isSpent_iff hlast).mpr h))
      rw [optionalEnds_succ hspent, oneEnd]
      by_cases hc : text[pos]?.any set.holds = true
      · have hne : (some pos : Option Nat) ≠ some (pos + 1) := by simp
        rw [if_pos hc, List.flatMap_singleton, ih hne (by omega), runLength_round hleft hc,
          upTo_succ]
      · rw [if_neg hc, runLength_stop hc, upTo_zero]
        cases fewest <;> rfl

/-- How many characters a repetition may take. -/
def available (text : Array Char) (set : CharSet) (most : Option Nat) (pos : Nat) : Nat :=
  runLength text set (allowance text most (.start pos)) 0 pos

theorem available_le_size (most : Option Nat) (pos : Nat) :
    available text set most pos ≤ text.size - pos :=
  runLength_le_size _ _

theorem available_le_most {m : Nat} (pos : Nat) : available text set (some m) pos ≤ m :=
  Nat.le_trans (runLength_le_limit _ _) (Nat.min_le_left _ _)

theorem repeatEnds_available {least : Nat} {most : Option Nat}
    (hmost : most.any (· < least) = false) (pos : Nat) :
    repeatEnds (oneEnd text set) least pos =
      if least ≤ available text set most pos then [pos + least] else [] := by
  rw [repeatEnds_oneEnd]
  congr 1
  rw [eq_iff_iff]
  have hle : runLength text set least 0 pos ≤ text.size - pos := runLength_le_size _ _
  have hall : available text set most pos ≤ text.size - pos := available_le_size _ _
  by_cases hsize : text.size - pos < least
  · omega
  · have hallowed : least ≤ allowance text most (.start pos) := by
      cases most with
      | none => exact Nat.le_of_not_lt hsize
      | some m =>
        rw [Option.any_some, decide_eq_false_iff_not] at hmost
        exact Nat.le_min.mpr ⟨Nat.le_of_not_lt hmost, Nat.le_of_not_lt hsize⟩
    rw [runLength_min hallowed, available]
    omega

theorem available_rest {least : Nat} {most : Option Nat} {pos : Nat}
    (h : least ≤ available text set most pos) :
    available text set (most.map (· - least)) (pos + least) =
      available text set most pos - least := by
  have hallowed : allowance text (most.map (· - least)) (.start (pos + least)) =
      allowance text most (.start pos) - least := by
    cases most with
    | none =>
      show text.size - (pos + least) = text.size - pos - least
      omega
    | some m =>
      show min (m - least) (text.size - (pos + least)) = min m (text.size - pos) - least
      omega
  have hsplit := runLength_split h
  rw [available, hallowed]
  rw [← available] at hsplit
  omega

/-- The ends of a character, repeated, in the order in which they are tried. -/
def charEnds (text : Array Char) (set : CharSet) (least : Nat) (most : Option Nat) (greed : Greed)
    (pos : Nat) : List Nat :=
  let count := available text set most pos
  if count < least then []
  else match greed with
    | .greedy => downTo (pos + least) (count - least)
    | .reluctant => upFrom (pos + least) (count - least)
    | .possessive => [pos + count]

theorem head_downTo (pos n : Nat) : (downTo pos n).take 1 = [pos + n] := by
  cases n <;> rfl

theorem charEnds_eq (least : Nat) (most : Option Nat) (greed : Greed) (pos : Nat) :
    charEnds text set least most greed pos =
      if most.any (· < least) then []
      else loopEnds (roundBound text) least most greed (oneEnd text set) pos := by
  -- counting stops at the greatest count, so it never gets to a least count above that
  cases hmost : most.any (· < least) with
  | true =>
    cases most with
    | none => cases hmost
    | some m =>
      have hcount : available text set (some m) pos ≤ m := available_le_most pos
      exact if_pos (Nat.lt_of_le_of_lt hcount (of_decide_eq_true hmost))
  | false =>
    have hbound : text.size - (pos + least) ≤ roundBound text := by
      unfold roundBound
      omega
    have hnone : (none : Option Nat) ≠ some (pos + least) := nofun
    unfold charEnds loopEnds
    rw [repeatEnds_available hmost, if_neg Bool.false_ne_true]
    by_cases hleast : least ≤ available text set most pos
    · rw [if_neg (Nat.not_lt.mpr hleast), if_pos hleast, List.flatMap_singleton,
        optionalEnds_oneEnd _ hnone hbound, ← available, available_rest hleast]
      cases greed with
      | greedy | reluctant => rfl
      | possessive =>
        show [pos + available text set most pos] =
          (downTo (pos + least) (available text set most pos - least)).take 1
        rw [head_downTo, Nat.add_assoc, Nat.add_sub_cancel' hleast]
    · rw [if_pos (Nat.lt_of_not_le hleast), if_neg hleast, List.flatMap_nil]
      show [] = if greed = .possessive then List.take 1 [] else []
      rw [List.take_nil, ite_self]

/-! ## Running a repetition of one character -/

theorem pos_counted (set : CharSet) (s : State) (count : Nat) :
    (counted set s count).pos = s.pos := by
  unfold counted
  split_ifs <;> rfl

theorem holds_of_literal? {code : Nat} (h : set.literal? = some code) (c : Char) :
    set.holds c = (c.toNat == code) := by
  unfold CharSet.literal? at h
  split at h
  · rename_i single hitems
    split_ifs at h with hcase
    · cases h
      rw [Bool.or_eq_true, not_or, Bool.not_eq_true, Bool.not_eq_true] at hcase
      rw [CharSet.holds, hcase.1, Bool.bne_false]
      unfold CharSet.listed
      rw [hitems]
      cases hrule : set.rule with
      | exact => simp [ClassItem.holds]
      | ascii | unicode =>
        rw [hrule] at hcase
        simp [hcase.2]
  · cases h

/-- Where a literal that follows does not stand, what follows fails. -/
theorem eq_none_of_standsAt {after : Option CharSet} {f : Nat → Option Nat} {pos : Nat}
    (hf : Follows text after f)
    (h : standsAt text (after.bind CharSet.literal?) pos = false) : f pos = none := by
  cases after with
  | none => cases h
  | some set =>
    cases hcode : set.literal? with
    | none =>
      rw [Option.bind_some, hcode] at h
      cases h
    | some code =>
      by_contra hne
      have hany := hf set rfl pos hne
      rw [Option.bind_some, hcode] at h
      cases hc : text[pos]? with
      | none =>
        rw [hc] at hany
        cases hany
      | some c =>
        rw [hc, Option.any_some, holds_of_literal? hcode, beq_iff_eq] at hany
        simp [standsAt, hc, hany] at h

variable {next : Continuation} {f : Nat → Option Nat} (h : Answers next f)
include h

theorem tryOn_answers (count : Nat) (s : State) : (tryOn next s count).stop? = f (s.pos + count) :=
  h (s.goTo (s.pos + count))

theorem stepBack_answers {after : Option CharSet} (hf : Follows text after f) (inRound : Bool)
    (least extra : Nat) (s : State) :
    (stepBack text inRound (after.bind CharSet.literal?) next least extra s).stop? =
      (downTo (s.pos + least) extra).findSome? f := by
  have hone : ∀ (count : Nat) (s : State),
      (if standsAt text (after.bind CharSet.literal?) (s.pos + count) then tryOn next s count
        else s.fail).stop? = f (s.pos + count) := by
    intro count s
    -- a place that is left out would have failed
    cases hstands : standsAt text (after.bind CharSet.literal?) (s.pos + count) with
    | true => exact tryOn_answers h count s
    | false => exact (eq_none_of_standsAt hf hstands).symm
  induction extra generalizing s with
  | zero =>
    have hfails : Answers State.fail fun _ => none := fun _ => rfl
    rw [stepBack, stop?_orElse _ _ _ hfails, hone, Option.or_none, downTo, List.findSome?_singleton]
  | succ extra ih =>
    have hrest : Answers (stepBack text inRound (after.bind CharSet.literal?) next least extra)
        fun pos => (downTo (pos + least) extra).findSome? f := ih
    rw [stepBack, stop?_orElse _ _ _ hrest, hone, downTo, List.findSome?_cons, Nat.add_assoc]
    cases f (s.pos + (least + (extra + 1))) <;> rfl

theorem stepOn_answers {ending : Continuation} (hending : Answers ending fun _ => none)
    (inRound : Bool) (more count : Nat) (s : State) :
    (stepOn inRound next ending more count s).stop? =
      (upFrom (s.pos + count) more).findSome? f := by
  induction more generalizing count s with
  | zero =>
    rw [stepOn, stop?_orElse _ _ _ hending, tryOn_answers h, Option.or_none, upFrom,
      List.findSome?_singleton]
  | succ more ih =>
    have hrest : Answers (stepOn inRound next ending more (count + 1))
        fun pos => (upFrom (pos + count + 1) more).findSome? f := ih (count + 1)
    rw [stepOn, stop?_orElse _ _ _ hrest, tryOn_answers h, upFrom, List.findSome?_cons]
    cases f (s.pos + count) <;> rfl

theorem charLoop_answers {after : Option CharSet} (hf : Follows text after f) (inRound : Bool)
    (least : Nat) (most : Option Nat) (greed : Greed) :
    Answers (charLoop text inRound (after.bind CharSet.literal?) set least most greed next)
      fun pos => (charEnds text set least most greed pos).findSome? f := by
  intro s
  show _ = (charEnds text set least most greed s.pos).findSome? f
  have hsize : available text set most s.pos ≤ text.size - s.pos := available_le_size _ _
  unfold charLoop charEnds
  change (if text.size - s.pos < least then _ else _ : Outcome).stop? = _
  by_cases hshort : text.size - s.pos < least
  · rw [if_pos hshort, if_pos (Nat.lt_of_le_of_lt hsize hshort)]
    rfl
  · rw [if_neg hshort]
    change _ = (if available text set most s.pos < least then _ else _ : List Nat).findSome? f
    by_cases hcount : available text set most s.pos < least
    · rw [if_pos hcount]
      cases greed <;> exact congrArg Outcome.stop? (if_pos hcount)
    · rw [if_neg hcount]
      cases greed with
      | greedy =>
        refine (congrArg Outcome.stop? (if_neg hcount)).trans ?_
        rw [stepBack_answers h hf, pos_counted]
        rfl
      | reluctant =>
        refine (congrArg Outcome.stop? (if_neg hcount)).trans ?_
        rw [stepOn_answers h (fun _ => rfl), pos_counted]
        rfl
      | possessive =>
        refine (congrArg Outcome.stop? (if_neg hcount)).trans ?_
        rw [h, List.findSome?_singleton, pos_counted]
        rfl

end

end ProblemMatcher.Regex.Node
