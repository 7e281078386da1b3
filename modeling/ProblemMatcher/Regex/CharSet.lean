import ProblemMatcher.Text.Alphanumeric
import ProblemMatcher.Text.DecimalDigit
import ProblemMatcher.Text.LetterCase
import ProblemMatcher.Text.Whitespace

/-!
# Character sets

What one place of a pattern accepts: a list of code points, ranges and categories, taken as it
stands or negated. A literal character is the set of that one character.

Under a case rule other than `exact` a character is compared by its lower case, and a letter of the
set stands for all the letters that share its upper case. Three rules follow the form the set is
written in. A set in which nothing has a case is compared exactly. A literal on its own is always
compared by lower case. Inside a larger set, a code point above 0xFFFF counts as it is written, and
a range that reaches above 0xFFFF is also tried on the upper case.
-/

namespace ProblemMatcher.Regex

open ProblemMatcher.Text

inductive Category
  | digit
  | space
  | word
  deriving Repr, DecidableEq

inductive CaseRule
  | exact
  | ascii
  | unicode
  deriving Repr, DecidableEq

inductive ClassItem
  | single (code : Nat)
  | range (lo hi : Nat)
  | category (kind : Category) (negated : Bool)
  /-- What a dot leaves out. -/
  | lineFeed
  deriving Repr, DecidableEq

structure CharSet where
  items : List ClassItem
  negated : Bool := false
  rule : CaseRule := .exact
  ascii : Bool := false
  deriving Repr, DecidableEq

namespace Category

def holds (kind : Category) (ascii : Bool) (c : Char) : Bool :=
  match kind, ascii with
  | .digit, true => isAsciiDigit c
  | .digit, false => isDecimalDigit c
  | .space, true => isAsciiBlank c
  | .space, false => isBlank c
  | .word, true => isAsciiWord c
  | .word, false => isWord c

end Category

namespace CaseRule

/-- The code point that stands for a code point in comparisons. -/
def fold : CaseRule → Nat → Nat
  | .exact, n => n
  | .ascii, n => asciiLower n
  | .unicode, n => lower n

def hasCase : CaseRule → Nat → Bool
  | .exact, _ => false
  | .ascii, n => isAsciiCased n
  | .unicode, n => isCased n

def hasCaseBetween : CaseRule → Nat → Nat → Bool
  | .exact, _, _ => false
  | .ascii, lo, hi => (lo ≤ 90 && 65 ≤ hi) || (lo ≤ 122 && 97 ≤ hi)
  | .unicode, lo, hi => casedBetween lo hi

/-- A folded code point and those that count as equal to it. -/
def alike : CaseRule → Nat → List Nat
  | .unicode, n => n :: cousins n
  | _, n => [n]

/-- The code points that fold to `n`. -/
def preimages : CaseRule → Nat → List Nat
  | .exact, n => [n]
  | .ascii, n =>
    if 97 ≤ n && n ≤ 122 then [n, n - 32] else if 65 ≤ n && n ≤ 90 then [] else [n]
  | .unicode, n => lowerPreimages n

end CaseRule

namespace ClassItem

/-- Code points from here on are compared as they are written. -/
def planeEnd : Nat := 0x10000

/-- Membership as written. -/
def holds (ascii : Bool) (c : Char) : ClassItem → Bool
  | .single code => c.toNat == code
  | .range lo hi => lo ≤ c.toNat && c.toNat ≤ hi
  | .category kind negated => kind.holds ascii c != negated
  | .lineFeed => c == '\n'

/-- The item makes its set one that is compared by case. -/
def isCased (rule : CaseRule) : ClassItem → Bool
  | .single code => planeEnd ≤ rule.fold code || rule.hasCase code
  | .range lo hi => planeEnd ≤ hi || rule.hasCaseBetween lo hi
  | .category _ _ | .lineFeed => false

/-- Membership of a folded character in a set compared by case. -/
def holdsFolded (rule : CaseRule) (ascii : Bool) (c : Char) : ClassItem → Bool
  | .single code =>
    if planeEnd ≤ rule.fold code then c.toNat == code
    else (rule.alike (rule.fold code)).contains c.toNat
  | .range lo hi =>
    ((rule.alike c.toNat).any fun n => (rule.preimages n).any fun m =>
        lo ≤ m && m ≤ hi && m < planeEnd) ||
      (planeEnd ≤ hi &&
        ((lo ≤ c.toNat && c.toNat ≤ hi) || (lo ≤ upper c.toNat && upper c.toNat ≤ hi)))
  | .category kind negated => kind.holds ascii c != negated
  | .lineFeed => c == '\n'

end ClassItem

namespace CharSet

def ofCode (code : Nat) (rule : CaseRule) : CharSet :=
  { items := [.single code], rule }

/-- Any character but a line feed. -/
def notLineFeed : CharSet :=
  { items := [.lineFeed], negated := true }

def all : CharSet :=
  { items := [], negated := true }

/-- The character that stands for `c` in comparisons. -/
def foldChar (rule : CaseRule) (c : Char) : Char :=
  Char.ofNat (rule.fold c.toNat)

/-- Membership before negation. -/
def listed (s : CharSet) (c : Char) : Bool :=
  match s.rule, s.items with
  | .exact, items => items.any (·.holds s.ascii c)
  | rule, [.single code] =>
    if rule.hasCase code then (rule.alike (rule.fold code)).contains (rule.fold c.toNat)
    else c.toNat == code
  | rule, items =>
    if items.any (·.isCased rule) then items.any (·.holdsFolded rule s.ascii (foldChar rule c))
    else items.any (·.holds s.ascii c)

def holds (s : CharSet) (c : Char) : Bool :=
  s.listed c != s.negated

/-! ## Forms -/

/-- The character that the set stands for, if it is a literal compared as it is written. -/
def literal? (s : CharSet) : Option Nat :=
  match s.items with
  | [.single code] => if s.negated || s.rule.hasCase code then none else some code
  | _ => none

/-- A set of characters is looked up by the folded character, and so is a literal that has more
counterparts than its other case. -/
def isFolded (s : CharSet) : Bool :=
  match s.rule, s.items with
  | .exact, _ => false
  | rule, [.single code] => rule.hasCase code && 1 < (rule.alike (rule.fold code)).length
  | rule, items => items.any (·.isCased rule)

/-- A literal or a character class that is compared as it is written. -/
def isPlain (s : CharSet) : Bool :=
  match s.items with
  | [.single _] => s.literal?.isSome
  | [] | [.lineFeed] => false
  | _ => !s.isFolded

/-- One set for alternatives of one character each. -/
def union? (sets : List CharSet) : Option CharSet :=
  match sets with
  | [] => none
  | first :: _ =>
    if sets.any (·.negated) then none
    else some {
      items := (sets.flatMap (·.items)).eraseDups
      rule := first.rule
      ascii := sets.any (·.ascii) }

end CharSet

end ProblemMatcher.Regex
