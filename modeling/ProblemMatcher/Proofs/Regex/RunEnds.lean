import ProblemMatcher.Proofs.Regex.CharEnds

/-!
# Running a tree tries its ends

Alternatives that cannot match where they stand are passed over, and what a tree begins with is
made known to what comes before it. Neither changes which end succeeds first.

1. `ends_of_isHopeless`, `follows_ends`: what is known beforehand about a tree is right.
2. `run_answers`: running a local tree tries its ends in order.
-/

namespace ProblemMatcher.Regex.Node

/-! ## What a tree begins with -/

theorem ends_of_isBlank {node : Node} (h : node.isBlank = true) (text : Array Char) (pos : Nat) :
    node.ends text pos = [pos] := by
  induction node with
  | empty => rfl
  | seq first second ih₁ ih₂ =>
    rw [isBlank, Bool.and_eq_true] at h
    rw [ends, ih₁ h.1, List.flatMap_singleton, ih₂ h.2]
  | scope body ih => exact ih h
  | _ => cases h

theorem follows_ends {text : Array Char} {after : Option CharSet} {f : Nat → Option Nat}
    (hf : Follows text after f) (node : Node) :
    Follows text (node.leading? after) fun pos => (node.ends text pos).findSome? f := by
  induction node generalizing after f with
  | empty =>
    intro set hset pos hne
    change [pos].findSome? f ≠ none at hne
    rw [List.findSome?_singleton] at hne
    exact hf set hset pos hne
  | one set =>
    rintro _ ⟨⟩ pos hne
    change (oneEnd text set pos).findSome? f ≠ none at hne
    by_contra hc
    rw [oneEnd, if_neg hc] at hne
    exact hne rfl
  | seq first second ih₁ ih₂ =>
    intro set hset pos hne
    change ((first.ends text pos).flatMap (second.ends text)).findSome? f ≠ none at hne
    rw [leading?] at hset
    -- a first part that is nothing at all lets the second one through
    split_ifs at hset with hblank
    · rw [ends_of_isBlank hblank, List.flatMap_singleton] at hne
      exact ih₂ hf set hset pos hne
    · rw [findSome?_flatMap] at hne
      exact ih₁ (follows_none text _) set hset pos hne
  | scope body ih => exact ih hf
  | _ => rintro _ ⟨⟩

/-- An alternative that is passed over has no ends. -/
theorem ends_of_isHopeless {node : Node} {text : Array Char} {pos : Nat}
    (h : node.isHopeless text pos = true) : node.ends text pos = [] := by
  unfold isHopeless at h
  split at h
  · rename_i set hset
    rw [Bool.and_eq_true, Bool.not_eq_true'] at h
    cases hends : node.ends text pos with
    | nil => rfl
    | cons stop rest =>
      have hne : (node.ends text pos).findSome? some ≠ none := by
        rw [hends]
        nofun
      have hany := follows_ends (follows_none text some) node set hset pos hne
      rw [h.2] at hany
      cases hany
  · cases h

theorem ends_of_set? {node : Node} {set : CharSet} (h : node.set? = some set)
    (text : Array Char) : node.ends text = oneEnd text set := by
  induction node with
  | one set' =>
    cases h
    rfl
  | scope body ih => exact ih h
  | _ => cases h

/-! ## Running a tree -/

theorem findSome?_take_one (l : List Nat) (f : Nat → Option Nat) :
    (l.take 1).findSome? f = l.head?.bind f := by
  cases l with
  | nil => rfl
  | cons stop rest => exact List.findSome?_singleton

section

variable [Engine] {text : Array Char} {after : Option CharSet} {next : Continuation}
  {f : Nat → Option Nat} {inRound : Bool}

theorem answers_one (h : Answers next f) (set : CharSet) :
    Answers ((one set).run text inRound after next)
      fun pos => ((one set).ends text pos).findSome? f := by
  intro s
  show _ = (oneEnd text set s.pos).findSome? f
  rw [run, oneEnd]
  cases hc : text[s.pos]? with
  | none => rfl
  | some c =>
    simp only [Option.any_some]
    split_ifs
    · exact (h _).trans List.findSome?_singleton.symm
    · rfl

theorem answers_either {first rest : Node}
    (hfirst : Answers (first.run text inRound none next)
      fun pos => (first.ends text pos).findSome? f)
    (hrest : Answers (rest.run text inRound none next)
      fun pos => (rest.ends text pos).findSome? f) :
    Answers ((either first rest).run text inRound after next)
      fun pos => ((either first rest).ends text pos).findSome? f := by
  intro s
  show _ = (first.ends text s.pos ++ rest.ends text s.pos).findSome? f
  rw [run]
  split_ifs with hhopeless
  · rw [ends_of_isHopeless hhopeless]
    exact hrest s
  · rw [stop?_orElse _ _ _ hrest, hfirst, List.findSome?_append]
    rfl

theorem answers_atomic (h : Answers next f) {body : Node}
    (hbody : Answers (body.run text inRound none done)
      fun pos => (body.ends text pos).findSome? some) :
    Answers ((atomic body).run text inRound after next)
      fun pos => ((atomic body).ends text pos).findSome? f := by
  intro s
  have hfirst := hbody s.note
  show _ = ((body.ends text s.pos).take 1).findSome? f
  change _ = (body.ends text s.pos).findSome? some at hfirst
  -- with nothing after it, the body stops at its first end
  rw [← List.head?_filterMap, List.filterMap_some] at hfirst
  rw [findSome?_take_one, ← hfirst, run]
  cases body.run text inRound none done s.note with
  | matched s' => exact h s'
  | failed noted marks => rfl

theorem answers_loop (h : Answers next f) (hf : Follows text after f) {least : Nat}
    {most : Option Nat} {greed : Greed} {body : Node}
    (hlocal : (loop least most greed body).isLocal = true)
    (hbody : body.isLocal = true → ∀ inRound {next f}, Answers next f →
      Answers (body.run text inRound none next) fun pos => (body.ends text pos).findSome? f) :
    Answers ((loop least most greed body).run text inRound after next)
      fun pos => ((loop least most greed body).ends text pos).findSome? f := by
  intro s
  show _ = (if _ then [] else loopEnds _ _ _ _ (body.ends text) s.pos : List Nat).findSome? f
  cases hset : body.set? with
  | some set =>
    rw [run, hset, Option.isSome_some, Bool.true_and, ends_of_set? hset, ← charEnds_eq]
    exact charLoop_answers h hf inRound least most greed s
  | none =>
    rw [run, hset]
    have hparts : greed ≠ .possessive ∧ body.isLocal = true := by
      cases greed with
      | greedy | reluctant => exact ⟨by decide, hlocal⟩
      | possessive =>
        rw [isLocal, hset] at hlocal
        cases hlocal
    exact loopRun_answers (fun next f h => hbody hparts.2 _ h) h inRound least most hparts.1 s

end

/-- **Running a local tree tries its ends in order.** -/
theorem run_answers [Engine] {text : Array Char} {node : Node} (hlocal : node.isLocal = true)
    {after : Option CharSet} {next : Continuation} {f : Nat → Option Nat} (h : Answers next f)
    (hf : Follows text after f) (inRound : Bool) :
    Answers (node.run text inRound after next) fun pos => (node.ends text pos).findSome? f := by
  induction node generalizing after next f inRound with
  | empty =>
    intro s
    exact (h s).trans List.findSome?_singleton.symm
  | one set => exact answers_one h set
  | seq first second ih₁ ih₂ =>
    rw [isLocal, Bool.and_eq_true] at hlocal
    intro s
    -- the second part is what comes after the first, and says what that is followed by
    have hsecond := ih₂ hlocal.2 h hf inRound
    refine (ih₁ hlocal.1 hsecond (follows_ends hf second) inRound s).trans ?_
    exact (findSome?_flatMap _ _ _).symm
  | never => exact fun _ => rfl
  | either first rest ih₁ ih₂ =>
    rw [isLocal, Bool.and_eq_true] at hlocal
    exact answers_either (ih₁ hlocal.1 h (follows_none text f) inRound)
      (ih₂ hlocal.2 h (follows_none text f) inRound)
  -- marks make no difference to what answers by the place alone
  | group index body ih =>
    intro s
    exact ih hlocal (fun s => h (s.leave index)) (follows_none text f) inRound (s.enter index)
  | scope body ih => exact ih hlocal h hf inRound
  | atomic body ih =>
    exact answers_atomic h
      (ih (isLocal_of_isRevisable hlocal) answers_done (follows_none text some) inRound)
  | loop least most greed body ih =>
    exact answers_loop h hf hlocal
      (fun hlocal inRound _ f h => ih hlocal h (follows_none text f) inRound)
  | place | backref | given | look => cases hlocal

end ProblemMatcher.Regex.Node
