import Mathlib
import ProblemMatcher.Regex

/-!
# Trees that look at nothing but what they take up

A tree is local if whether it can take up some text depends on that text alone: it holds no place,
no lookaround and no reference to a group. What is atomic in it holds nothing atomic in turn, and
what it repeats for good is a single character. (Atomic groups inside one another may give up a
way because of text that the outer one hands back.)

A tree is blind if it meets the first of these conditions, whatever is atomic in it.
-/

namespace ProblemMatcher.Regex.Node

/-- Every choice made in the tree may be taken back. -/
def isRevisable : Node → Bool
  | .empty | .one _ | .never => true
  | .seq first second | .either first second => first.isRevisable && second.isRevisable
  | .group _ body | .scope body => body.isRevisable
  | .loop _ _ greed body => greed != .possessive && body.isRevisable
  | .place _ | .backref _ _ | .given _ _ _ | .look _ _ _ | .atomic _ => false

/-- The tree looks at nothing but the text it takes up. -/
def isLocal : Node → Bool
  | .empty | .one _ | .never => true
  | .seq first second | .either first second => first.isLocal && second.isLocal
  | .group _ body | .scope body => body.isLocal
  | .atomic body => body.isRevisable
  | .loop _ _ .possessive body => body.set?.isSome
  | .loop _ _ .greedy body | .loop _ _ .reluctant body => body.isLocal
  | .place _ | .backref _ _ | .given _ _ _ | .look _ _ _ => false

/-- No part of the tree looks at anything but the character it takes up. -/
def isBlind : Node → Bool
  | .empty | .one _ | .never => true
  | .seq first second | .either first second => first.isBlind && second.isBlind
  | .group _ body | .scope body | .atomic body | .loop _ _ _ body => body.isBlind
  | .place _ | .backref _ _ | .given _ _ _ | .look _ _ _ => false

theorem isRevisable_of_set? {node : Node} (h : node.set?.isSome = true) :
    node.isRevisable = true := by
  induction node with
  | one set => rfl
  | scope body ih => exact ih h
  | _ => cases h

theorem isLocal_of_isRevisable {node : Node} (h : node.isRevisable = true) :
    node.isLocal = true := by
  induction node with
  | empty | one | never => rfl
  | seq first second ih₁ ih₂ | either first second ih₁ ih₂ =>
    rw [isRevisable, Bool.and_eq_true] at h
    rw [isLocal, ih₁ h.1, ih₂ h.2]
    rfl
  | group index body ih | scope body ih => exact ih h
  | loop least most greed body ih =>
    rw [isRevisable, Bool.and_eq_true] at h
    cases greed with
    | greedy | reluctant => exact ih h.2
    | possessive => exact absurd h.1 (by decide)
  | place | backref | given | look | atomic => cases h

theorem isBlind_of_isLocal {node : Node} (h : node.isLocal = true) : node.isBlind = true := by
  induction node with
  | empty | one | never => rfl
  | seq first second ih₁ ih₂ | either first second ih₁ ih₂ =>
    rw [isLocal, Bool.and_eq_true] at h
    rw [isBlind, ih₁ h.1, ih₂ h.2]
    rfl
  | group index body ih | scope body ih => exact ih h
  | atomic body ih => exact ih (isLocal_of_isRevisable h)
  | loop least most greed body ih =>
    cases greed with
    | greedy | reluctant => exact ih h
    | possessive => exact ih (isLocal_of_isRevisable (isRevisable_of_set? h))
  | place | backref | given | look => cases h

end ProblemMatcher.Regex.Node
