import ProblemMatcher.Regex.Repetition

/-!
# Matching

A tree is run at a place of a text. `Node.run` is given what comes after the tree as a function on
states, and gives the outcome of the first way through the tree, in order of preference, whose
continuation succeeds. Whatever is not the first way is tried only when all before it fail.

Two things about the surroundings of a tree are given besides: whether it stands inside a round of a
repetition that may be taken back, and the set that follows it at once, if one does.
-/

namespace ProblemMatcher.Regex

open ProblemMatcher.Text

/-! ## Conditions on places -/

def wordAt (text : Array Char) (ascii : Bool) (pos : Nat) : Bool :=
  match text[pos]? with
  | some c => if ascii then isAsciiWord c else isWord c
  | none => false

def wordBefore (text : Array Char) (ascii : Bool) (pos : Nat) : Bool :=
  pos != 0 && wordAt text ascii (pos - 1)

def lineFeedAt (text : Array Char) (pos : Nat) : Bool :=
  text[pos]? == some '\n'

/-- An empty text has neither edges of words nor places that are none. -/
def Place.holds (text : Array Char) (pos : Nat) : Place → Bool
  | .textStart | .firstLineStart => pos == 0
  | .lineStart => pos == 0 || lineFeedAt text (pos - 1)
  | .textEnd => pos == text.size
  | .lineEnd => pos == text.size || lineFeedAt text pos
  | .lastLineEnd => pos == text.size || (pos + 1 == text.size && lineFeedAt text pos)
  | .wordEdge ascii => text.size != 0 && wordBefore text ascii pos != wordAt text ascii pos
  | .notWordEdge ascii => text.size != 0 && wordBefore text ascii pos == wordAt text ascii pos

/-! ## Trees -/

/-- The text between two places stands at a place, under a case rule. -/
def repeats (text : Array Char) (rule : CaseRule) : Nat → Nat → Nat → Bool
  | 0, _, _ => true
  | length + 1, start, pos =>
    match text[start]?, text[pos]? with
    | some c, some d =>
      rule.fold c.toNat == rule.fold d.toNat && repeats text rule length (start + 1) (pos + 1)
    | _, _ => false

/-- Looks around from so many characters before the place. -/
def lookRun (inRound negated : Bool) (width : Nat) (body : Continuation) : Runner := fun next s =>
  -- too near the start of the text for a lookbehind to step back
  if s.pos < width then (if negated then next s else s.fail)
  else
    match body (s.goTo (s.pos - width)), negated with
    | .matched found, false => next { found with pos := s.pos }
    | .matched found, true => found.fail
    | .failed noted marks, false => .failed noted marks
    | .failed noted marks, true => next (s.retry inRound noted marks)

def Side.width : Side → Nat
  | .ahead => 0
  | .behind width => width

namespace Node

/-- The tree is nothing at all. -/
def isBlank : Node → Bool
  | .empty => true
  | .seq first second => first.isBlank && second.isBlank
  | .scope body => body.isBlank
  | _ => false

/-- The set that a tree begins with, given that of what follows the tree. -/
def leading? : Node → Option CharSet → Option CharSet
  | .empty, after => after
  | .one set, _ => some set
  | .seq first second, after =>
    if first.isBlank then second.leading? after else first.leading? none
  | .scope body, after => body.leading? after
  | _, _ => none

/-- An alternative that begins with a plain set cannot match where the next character is not in
it, and is passed over there. -/
def isHopeless (node : Node) (text : Array Char) (pos : Nat) : Bool :=
  match node.leading? none with
  | some set => set.isPlain && !text[pos]?.any set.holds
  | none => false

/-- Runs a tree. `after` is the set that what follows it begins with. -/
def run [Engine] (text : Array Char) : Node → (inRound : Bool) → (after : Option CharSet) → Runner
  | .empty, _, _, next, s => next s
  | .one set, _, _, next, s =>
    match text[s.pos]? with
    | some c => if set.holds c then next { s with pos := s.pos + 1 } else s.fail
    | none => s.fail
  | .place which, _, _, next, s => if which.holds text s.pos then next s else s.fail
  | .seq first second, inRound, after, next, s =>
    first.run text inRound (second.leading? after) (second.run text inRound after next) s
  | .never, _, _, _, s => s.fail
  | .either first rest, inRound, _, next, s =>
    if first.isHopeless text s.pos then rest.run text inRound none next s
    else
      s.orElse inRound (first.run text inRound none next s.note) (rest.run text inRound none next)
  | .group index body, inRound, _, next, s =>
    body.run text inRound none (fun s => next (s.leave index)) (s.enter index)
  | .scope body, inRound, after, next, s => body.run text inRound after next s
  | .backref index rule, _, _, next, s =>
    match s.marks.span? index with
    | some (start, stop) =>
      if repeats text rule (stop - start) start s.pos then
        next { s with pos := s.pos + (stop - start) }
      else s.fail
    | none => s.fail
  -- with a second branch, what follows the first one is not known to it
  | .given index yes no, inRound, after, next, s =>
    match s.marks.span? index with
    | some _ => yes.run text inRound (if no = .empty then after else none) next s
    | none => no.run text inRound after next s
  | .look side negated body, inRound, _, next, s =>
    lookRun inRound negated side.width (body.run text inRound none done) next s
  | .atomic body, inRound, _, next, s =>
    match body.run text inRound none done s.note with
    | .matched s => next s
    | .failed _ marks => .failed s.pos marks
  | .loop least most greed body, inRound, after, next, s =>
    match body.set? with
    | some set => charLoop text inRound (after.bind CharSet.literal?) set least most greed next s
    | none =>
      loopRun text inRound least most greed
        (body.run text (inRound || greed != .possessive) none) next s

end Node

end ProblemMatcher.Regex
