import ProblemMatcher.Regex

/-!
# Where the releases of the engine agree

The releases run everything alike but the rounds of a possessive repetition of more than single
characters. A pattern without one is searched for with the same result by both.

1. `Node.run_agrees`: a tree without such a repetition, by induction on the tree.
2. `search_agrees`: a search for a pattern without one.
-/

namespace ProblemMatcher.Regex

namespace Node

/-- Rounds of some repetition in the tree are not taken back. -/
def hasFinalRounds : Node → Bool
  | .empty | .one _ | .place _ | .never | .backref _ _ => false
  | .seq first second | .either first second => first.hasFinalRounds || second.hasFinalRounds
  | .given _ yes no => yes.hasFinalRounds || no.hasFinalRounds
  | .group _ body | .scope body | .look _ _ body | .atomic body => body.hasFinalRounds
  | .loop _ _ greed body => (greed == .possessive && body.set?.isNone) || body.hasFinalRounds

variable (e e' : Engine)

theorem run_agrees {node : Node} (h : node.hasFinalRounds = false) (text : Array Char)
    (inRound : Bool) (after : Option CharSet) :
    @run e text node inRound after = @run e' text node inRound after := by
  induction node generalizing inRound after with
  | empty | one | place | never | backref => rfl
  | seq first second ih₁ ih₂ | either first second ih₁ ih₂ =>
    obtain ⟨hfirst, hsecond⟩ := Bool.or_eq_false_iff.mp h
    funext next s
    simp only [run, ih₁ hfirst, ih₂ hsecond]
  | given index yes no ih₁ ih₂ =>
    obtain ⟨hyes, hno⟩ := Bool.or_eq_false_iff.mp h
    funext next s
    simp only [run, ih₁ hyes, ih₂ hno]
  | group index body ih | scope body ih | look side negated body ih | atomic body ih =>
    funext next s
    simp only [run, ih h]
  | loop least most greed body ih =>
    obtain ⟨hgreed, hbody⟩ := Bool.or_eq_false_iff.mp h
    funext next s
    cases hset : body.set? with
    | some set => simp only [run, hset]
    | none =>
      simp only [run, hset, ih hbody]
      -- only a possessive repetition has rounds that the releases tell apart
      cases greed with
      | greedy | reluctant => rfl
      | possessive =>
        rw [hset] at hgreed
        cases hgreed

theorem searchFrom_agrees {root : Node} (h : root.hasFinalRounds = false) (opening : Opening)
    (text : Array Char) (count pos : Nat) :
    @searchFrom e root opening text count pos = @searchFrom e' root opening text count pos := by
  induction count generalizing pos with
  | zero => rfl
  | succ count ih => simp only [searchFrom, matchAt, run_agrees e e' h, ih]

end Node

/-- **Both releases find the same match** of a pattern without possessive repetitions of more than
single characters. -/
theorem search_agrees (e e' : Engine) {r : Regex} (h : r.root.hasFinalRounds = false)
    (text : Array Char) (pos : Nat) : @search e r text pos = @search e' r text pos := by
  simp only [search, find, Node.searchFrom_agrees e e' h]

/-- With one they need not: the first round fails behind its first character, where the early release
stays. -/
example : (compile "(?:ab?c)*+").toOption.map (fun r =>
      let text := "ababc".toList.toArray
      (@find ⟨.early⟩ r text 0, @find ⟨.late⟩ r text 0)) =
    some (some (0, 1, {}), some (0, 0, {})) := by
  decide +kernel

end ProblemMatcher.Regex
