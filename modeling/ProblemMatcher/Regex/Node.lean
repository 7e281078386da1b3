import ProblemMatcher.Regex.CharSet

/-!
# Pattern trees

A pattern as a tree, with the modes already worked into its leaves, and the least and greatest
number of characters a tree can take up. A lookbehind steps back by a fixed number of characters,
which is stored with it.
-/

namespace ProblemMatcher.Regex

/-- Conditions on a place between two characters. -/
inductive Place
  | textStart
  /-- The start of the first line, which is that of the text. -/
  | firstLineStart
  | lineStart
  | textEnd
  | lineEnd
  /-- The end of the text, or the place before a line feed that ends it. -/
  | lastLineEnd
  | wordEdge (ascii : Bool)
  | notWordEdge (ascii : Bool)
  deriving Repr, DecidableEq

/-- How a repetition chooses its count: the most first, the fewest first, or the most for good. -/
inductive Greed
  | greedy
  | reluctant
  | possessive
  deriving Repr, DecidableEq

inductive Side
  | ahead
  | behind (width : Nat)
  deriving Repr, DecidableEq

inductive Node
  | empty
  | one (set : CharSet)
  | place (which : Place)
  | seq (first second : Node)
  /-- No alternative is left. -/
  | never
  /-- An alternative before others. -/
  | either (first rest : Node)
  | group (index : Nat) (body : Node)
  /-- A group that does nothing but set modes. -/
  | scope (body : Node)
  | backref (index : Nat) (rule : CaseRule)
  | given (index : Nat) (yes no : Node)
  | look (side : Side) (negated : Bool) (body : Node)
  | atomic (body : Node)
  /-- At least `least` times; at most `most` times, if given. -/
  | loop (least : Nat) (most : Option Nat) (greed : Greed) (body : Node)
  deriving Repr, DecidableEq

/-- How many characters a tree takes up; no greatest number when it has no bound. -/
structure Width where
  least : Nat
  most : Option Nat
  deriving Repr, DecidableEq

namespace Width

def zero : Width := ⟨0, some 0⟩

def single : Width := ⟨1, some 1⟩

def add (a b : Width) : Width where
  least := a.least + b.least
  most := match a.most, b.most with
    | some m, some n => some (m + n)
    | _, _ => none

def join (a b : Width) : Width where
  least := min a.least b.least
  most := match a.most, b.most with
    | some m, some n => some (max m n)
    | _, _ => none

/-- No bound times zero is zero. -/
def times (w : Width) (least : Nat) (most : Option Nat) : Width where
  least := w.least * least
  most := match w.most, most with
    | some m, some n => some (m * n)
    | some m, none => if m == 0 then some 0 else none
    | none, some n => if n == 0 then some 0 else none
    | none, none => none

/-- Widths from here on count as having no bound. -/
def unbounded : Nat := 4294967295

/-- The width, if it is one number. -/
def fixed? (w : Width) : Option Nat :=
  if w.most == some w.least && w.least < unbounded then some w.least else none

end Width

namespace Node

/-- The width of a tree, given the widths of the groups it refers back to. -/
def width (groups : Nat → Width) : Node → Width
  | .empty => .zero
  | .one _ => .single
  | .place _ => .zero
  | .seq first second => (first.width groups).add (second.width groups)
  | .never => .zero
  | .either first rest =>
    if rest = .never then first.width groups
    else (first.width groups).join (rest.width groups)
  | .group _ body => body.width groups
  | .scope body => body.width groups
  | .backref index _ => groups index
  | .given _ yes no => (yes.width groups).join (no.width groups)
  | .look _ _ _ => .zero
  | .atomic body => body.width groups
  | .loop least most _ body => (body.width groups).times least most

/-! ## Sequences -/

/-- The trees one after another. -/
def sequence : List Node → Node
  | [] => .empty
  | [node] => node
  | node :: rest => .seq node (sequence rest)

/-- The trees of a sequence. -/
def items : Node → List Node
  | .empty => []
  | .seq first rest => first :: rest.items
  | node => [node]

/-- The set of a tree that is nothing but one character. -/
def set? : Node → Option CharSet
  | .one set => some set
  | .scope body => body.set?
  | _ => none

/-! ## Alternatives -/

/-- Trees that stand for the same thing when they are written in the same way. Trees with a body
are told apart. -/
def isSame : Node → Node → Bool
  | .one s, .one t => s == t
  | .place p, .place q => p == q
  | .backref m _, .backref n _ => m == n
  | _, _ => false

/-- What follows the given tree in a sequence. -/
def dropFirst? (node : Node) : List Node → Option (List Node)
  | [] => none
  | first :: rest => if first.isSame node then some rest else none

/-- What all sequences begin with, and what is left of each. -/
def splitShared : List Node → List (List Node) → List Node × List (List Node)
  | [], others => ([], [] :: others)
  | node :: rest, others =>
    match others.mapM (dropFirst? node) with
    | some others =>
      let (shared, rests) := splitShared rest others
      (node :: shared, rests)
    | none => ([], (node :: rest) :: others)

/-- The set of a sequence that is a literal or a character class. -/
def soleSet? : List Node → Option CharSet
  | [.one set] => some set
  | _ => none

/-- The first of the sequences that leads to a match. Alternatives of one character are one set. -/
def alternatives (branches : List (List Node)) : Node :=
  match (branches.mapM soleSet?).bind CharSet.union? with
  | some set => .one set
  | none => branches.foldr (fun branch rest => .either (sequence branch) rest) .never

/-- The first of the branches that leads to a match; what they all begin with is put in front. -/
def choice : List (List Node) → Node
  | [] => .empty
  | [branch] => sequence branch
  | branch :: others =>
    let (shared, rests) := splitShared branch others
    sequence (shared ++ [alternatives rests])

end Node

end ProblemMatcher.Regex
