/-!
# TOML values

The values of a TOML document. Of numbers with a fraction and of dates and times only the kind is
kept.

`Table.updateAt` changes a table below another one; the tables on the way are made if they are
missing. It is what both a header and a dotted name do.
-/

namespace ProblemMatcher.Toml

inductive Value
  | str (s : List Char)
  | int (n : Int)
  | float
  | bool (b : Bool)
  | dateTime
  | date
  | time
  | arr (items : List Value)
  | table (members : List (List Char × Value))
  deriving Repr, Inhabited

/-- A part of a key. -/
abbrev Name := List Char

/-- The names that lead to a value. -/
abbrev Key := List Name

/-- A table: values by their names. -/
abbrev Table := List (Name × Value)

/-- Why a document has no value. -/
inductive Fault
  | malformed
  | integerTooLong (digits : Nat)
  | tooDeep
  deriving Repr, DecidableEq

namespace Value

/-- The word for the kind of a value in messages. -/
def kind : Value → String
  | .str _ => "str"
  | .int _ => "int"
  | .float => "float"
  | .bool _ => "bool"
  | .dateTime => "datetime.datetime"
  | .date => "datetime.date"
  | .time => "datetime.time"
  | .arr _ => "list"
  | .table _ => "dict"

def isContainer : Value → Bool
  | .arr _ | .table _ => true
  | _ => false

end Value

namespace Table

def get? (t : Table) (name : Name) : Option Value :=
  t.lookup name

/-- The table with a value in the place of the one it has under a name, or behind all others. -/
def put (t : Table) (name : Name) (v : Value) : Table :=
  match t with
  | [] => [(name, v)]
  | (other, w) :: rest => if other = name then (name, v) :: rest else (other, w) :: put rest name v

/-- Adds a value under a name that is not taken. -/
def add? (t : Table) (name : Name) (v : Value) : Option Table :=
  match t.get? name with
  | some _ => none
  | none => some (t.put name v)

/-- Adds an empty table to the array under a name. -/
def append? (t : Table) (name : Name) : Option Table :=
  match t.get? name with
  | none => some (t.put name (.arr [.table []]))
  | some (.arr items) => some (t.put name (.arr (items ++ [.table []])))
  | some _ => none

/-- Changes the table that a key leads to. With `throughArrays` an array on the way stands for its
last item; any other value that is no table bars the way. -/
def updateAt (throughArrays : Bool) (change : Table → Option Table) : Key → Table → Option Table
  | [], t => change t
  | name :: rest, t =>
    match t.get? name with
    | none => (updateAt throughArrays change rest []).map fun u => t.put name (.table u)
    | some (.table u) => (updateAt throughArrays change rest u).map fun u => t.put name (.table u)
    | some (.arr items) =>
      match throughArrays, items.getLast? with
      | true, some (.table u) =>
        (updateAt throughArrays change rest u).map fun u =>
          t.put name (.arr (items.dropLast ++ [.table u]))
      | _, _ => none
    | some _ => none

end Table

end ProblemMatcher.Toml
