/-!
# Pattern modes

The modes a pattern is compiled under. They are given from outside or turned on inside the pattern,
for all of it or for one group. `ascii` and `unicode` exclude each other; a pattern that asks for
neither is a Unicode one.
-/

namespace ProblemMatcher.Regex

structure Flags where
  ignoreCase : Bool := false
  multiline : Bool := false
  dotAll : Bool := false
  verbose : Bool := false
  ascii : Bool := false
  unicode : Bool := false
  template : Bool := false
  deriving Repr, DecidableEq, Inhabited

namespace Flags

def plain : Flags := {}

def union (a b : Flags) : Flags where
  ignoreCase := a.ignoreCase || b.ignoreCase
  multiline := a.multiline || b.multiline
  dotAll := a.dotAll || b.dotAll
  verbose := a.verbose || b.verbose
  ascii := a.ascii || b.ascii
  unicode := a.unicode || b.unicode
  template := a.template || b.template

def without (a b : Flags) : Flags where
  ignoreCase := a.ignoreCase && !b.ignoreCase
  multiline := a.multiline && !b.multiline
  dotAll := a.dotAll && !b.dotAll
  verbose := a.verbose && !b.verbose
  ascii := a.ascii && !b.ascii
  unicode := a.unicode && !b.unicode
  template := a.template && !b.template

/-- Some mode is on in both. -/
def overlaps (a b : Flags) : Bool :=
  (a.ignoreCase && b.ignoreCase) || (a.multiline && b.multiline) || (a.dotAll && b.dotAll) ||
    (a.verbose && b.verbose) || (a.ascii && b.ascii) || (a.unicode && b.unicode) ||
    (a.template && b.template)

/-- The modes inside a group that turns some on and some off. A group that chooses an alphabet
replaces the one in force. -/
def within (outer on off : Flags) : Flags :=
  let base :=
    if on.ascii || on.unicode then { outer with ascii := false, unicode := false } else outer
  (base.union on).without off

/-- Unicode is on unless ASCII is. -/
def settled (f : Flags) : Flags :=
  { f with unicode := !f.ascii }

/-- The mode named by a letter inside a pattern. -/
def ofLetter? : Char → Option Flags
  | 'i' => some { ignoreCase := true }
  | 'm' => some { multiline := true }
  | 's' => some { dotAll := true }
  | 'x' => some { verbose := true }
  | 'a' => some { ascii := true }
  | 'u' => some { unicode := true }
  | 't' => some { template := true }
  | _ => none

/-- The modes that show in matching, as letters in a fixed order. -/
def letters (f : Flags) : String :=
  String.ofList <|
    [('i', f.ignoreCase), ('m', f.multiline), ('s', f.dotAll), ('x', f.verbose), ('a', f.ascii)]
      |>.filterMap fun (letter, on) => if on then some letter else none

theorem union_plain (f : Flags) : f.union plain = f := by
  cases f; simp [union, plain]

theorem plain_union (f : Flags) : plain.union f = f := by
  cases f; simp [union, plain]

theorem union_self (f : Flags) : f.union f = f := by
  cases f; simp [union]

theorem union_assoc (a b c : Flags) : (a.union b).union c = a.union (b.union c) := by
  simp [union, Bool.or_assoc]

theorem multiline_union (a b : Flags) : (a.union b).multiline = (a.multiline || b.multiline) := rfl

theorem verbose_union (a b : Flags) : (a.union b).verbose = (a.verbose || b.verbose) := rfl

theorem verbose_within (outer on off : Flags) :
    (outer.within on off).verbose = ((outer.verbose || on.verbose) && !off.verbose) := by
  unfold within
  split <;> rfl

theorem multiline_within (outer on off : Flags) :
    (outer.within on off).multiline = ((outer.multiline || on.multiline) && !off.multiline) := by
  unfold within
  split <;> rfl

end Flags

end ProblemMatcher.Regex
