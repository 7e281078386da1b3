import ProblemMatcher.Number.Shortest
import ProblemMatcher.Text.Quoted

/-!
# JSON values

The values of a JSON document. Integers are exact and floating point numbers a kind of their own.
An object keeps its members in the order in which their names first appear. A string is made of
characters, so that no value holds a lone surrogate.

`Value.shown` writes a value on one line for a message.
-/

namespace ProblemMatcher.Json

inductive Value
  | null
  | bool (b : Bool)
  | int (n : Int)
  | float (x : Binary64)
  | str (s : String)
  | arr (items : List Value)
  | obj (members : List (String × Value))
  deriving Repr, Inhabited

namespace Value

/-- The word for the kind of a value in messages. -/
def kind : Value → String
  | .null => "NoneType"
  | .bool _ => "bool"
  | .int _ => "int"
  | .float _ => "float"
  | .str _ => "str"
  | .arr _ => "list"
  | .obj _ => "dict"

mutual

/-- A value as it appears in messages. -/
def shown : Value → String
  | .null => "None"
  | .bool true => "True"
  | .bool false => "False"
  | .int n => toString n
  | .float x => x.text
  | .str s => Text.quoted s
  | .arr items => "[" ++ ", ".intercalate (shownItems items) ++ "]"
  | .obj members => "\x7b" ++ ", ".intercalate (shownMembers members) ++ "\x7d"

def shownItems : List Value → List String
  | [] => []
  | v :: rest => v.shown :: shownItems rest

def shownMembers : List (String × Value) → List String
  | [] => []
  | (name, v) :: rest => (Text.quoted name ++ ": " ++ v.shown) :: shownMembers rest

end

/-- A text stands for itself, any other value is shown. -/
def asText : Value → String
  | .str s => s
  | v => v.shown

/-- The value of a member among others. -/
def lookup (name : String) : List (String × Value) → Option Value
  | [] => none
  | (other, v) :: rest => if other = name then some v else lookup name rest

/-- The members with one more; a name that is there already keeps its place. -/
def insert (members : List (String × Value)) (name : String) (v : Value) : List (String × Value) :=
  match members with
  | [] => [(name, v)]
  | (other, w) :: rest =>
    if other = name then (name, v) :: rest else (other, w) :: insert rest name v

theorem lookup_insert (members : List (String × Value)) (name other : String) (v : Value) :
    lookup other (insert members name v) =
      if name = other then some v else lookup other members := by
  induction members with
  | nil => rfl
  | cons m rest ih =>
    obtain ⟨key, w⟩ := m
    by_cases hk : key = name
    · subst hk
      by_cases h : key = other <;> simp [insert, lookup, h]
    · by_cases h : key = other
      · subst h; simp [insert, lookup, hk, Ne.symm hk]
      · simp [insert, lookup, hk, h, ih]

end Value

end ProblemMatcher.Json
