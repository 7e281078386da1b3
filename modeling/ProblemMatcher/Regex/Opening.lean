import ProblemMatcher.Regex.Node

/-!
# Where a match can begin

From the form of a pattern a search learns where it need not try: a pattern that takes up at least
some characters does not match in fewer, and one that begins with a literal or with a character
class does not match in front of any other character.

A class is looked up here in the alphabet of the whole pattern, even if a group around it has set
another one for itself. So a match begins only with a character that is in the class both ways.
-/

namespace ProblemMatcher.Regex

/-- What a match begins with, as far as a search looks at it. -/
inductive Opening
  | anything
  | literal
  | oneOf (set : CharSet)
  deriving Repr, DecidableEq

namespace ClassItem

/-- The item means the same whatever the case of letters. -/
def isCaseless (rule : CaseRule) : ClassItem → Bool
  | .single code => !rule.hasCase code
  | .range lo hi => rule == .exact || (hi < planeEnd && !rule.hasCaseBetween lo hi)
  | .category _ _ | .lineFeed => true

end ClassItem

namespace CharSet

/-- The set is a character class: neither a single character nor a dot. -/
def isClass (s : CharSet) : Bool :=
  match s.items with
  | [.single _] | [] | [.lineFeed] => false
  | _ => true

/-- The set as it is in another alphabet and without regard to case, if case makes no difference. -/
def inAlphabet? (s : CharSet) (ascii : Bool) : Option CharSet :=
  if s.items.all (·.isCaseless s.rule) then some { s with rule := .exact, ascii } else none

end CharSet

namespace Node

/-- The tree begins with a literal; if it does not, whether it is nothing at all. -/
inductive Lead
  | literal
  | blank
  | other
  deriving Repr, DecidableEq

def lead : Node → Lead
  | .empty => .blank
  | .one set => if set.literal?.isSome then .literal else .other
  | .seq first second =>
    match first.lead with
    | .blank => second.lead
    | lead => lead
  | .group _ body => body.lead
  | .scope body => body.lead
  | _ => .other

/-- The literals that alternatives begin with, if they all do. -/
def literals? : Node → Option (List ClassItem)
  | .never => some []
  | .either first rest =>
    match first.items with
    | .one set :: _ =>
      match set.literal? with
      | some code => rest.literals?.map (.single code :: ·)
      | none => none
    | _ => none
  | _ => none

/-- The characters that a tree which does not begin with a literal can begin with. -/
def firstSet? (ascii : Bool) : Node → Option CharSet
  | .one set => if set.isClass then set.inAlphabet? ascii else none
  | .seq first _ => first.firstSet? ascii
  | .group _ body => body.firstSet? ascii
  | .scope body => body.firstSet? ascii
  | .either first rest => (either first rest).literals?.map fun items => { items }
  | _ => none

/-- What the matches of a pattern begin with that takes up at least so many characters. -/
def opening (root : Node) (ascii : Bool) (least : Nat) : Opening :=
  if least = 0 then .anything
  else if root.lead = .literal then .literal
  else match root.firstSet? ascii with
    | some set => .oneOf set
    | none => .anything

end Node

namespace Opening

/-- A match may begin at a place. -/
def admits (o : Opening) (text : Array Char) (pos : Nat) : Bool :=
  match o with
  | .anything | .literal => true
  | .oneOf set => text[pos]?.any set.holds

/-- Behind the last place where a match that takes up at least so many characters is looked for.
A place too far is tried unless the opening forbids it. -/
def limit (o : Opening) (least size : Nat) : Nat :=
  match o with
  | .anything => size + 1 - (least - 1)
  | .literal | .oneOf _ => size

end Opening

end ProblemMatcher.Regex
