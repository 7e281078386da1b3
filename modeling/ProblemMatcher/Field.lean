/-!
# Diagnostic fields

The fields of a diagnostic that a capture group can supply, and tables that say which group
supplies which field. A table may hold a negative index, which says that the field is not supplied.
-/

namespace ProblemMatcher

inductive Field
  | line
  | column
  | endLine
  | endColumn
  | severity
  | code
  | file
  | location
  | message
  deriving Repr, DecidableEq

namespace Field

def all : List Field :=
  [.line, .column, .endLine, .endColumn, .severity, .code, .file, .location, .message]

/-- The name of a field in a declaration. -/
def key : Field → String
  | .line => "line"
  | .column => "column"
  | .endLine => "endLine"
  | .endColumn => "endColumn"
  | .severity => "severity"
  | .code => "code"
  | .file => "file"
  | .location => "location"
  | .message => "message"

def ofKey? (key : String) : Option Field :=
  all.find? (·.key == key)

end Field

/-- Which group index each field has, if any. -/
def FieldTable := Field → Option Int

namespace FieldTable

def empty : FieldTable := fun _ => none

def get? (t : FieldTable) (f : Field) : Option Int := t f

def set (t : FieldTable) (f : Field) (index : Int) : FieldTable :=
  fun g => if g = f then some index else t g

def erase (t : FieldTable) (f : Field) : FieldTable :=
  fun g => if g = f then none else t g

/-- The entries of `upper`, and those of `t` for the other fields. -/
def overlay (t upper : FieldTable) : FieldTable :=
  fun f => (upper f).or (t f)

def map (t : FieldTable) (change : Int → Int) : FieldTable :=
  fun f => (t f).map change

/-- The entries that name a group. -/
def supplied (t : FieldTable) : FieldTable :=
  fun f => (t f).filter (0 ≤ ·)

def ofList (entries : List (Field × Int)) : FieldTable :=
  entries.foldl (fun t (f, index) => t.set f index) empty

def toList (t : FieldTable) : List (Field × Int) :=
  Field.all.filterMap fun f => (t f).map (f, ·)

/-- The table of a pattern that stands alone. -/
def single : FieldTable :=
  ofList [(.line, 1), (.column, 3), (.message, 4), (.file, 1)]

@[simp] theorem get?_empty (f : Field) : empty.get? f = none := rfl

@[simp] theorem get?_set (t : FieldTable) (f g : Field) (index : Int) :
    (t.set f index).get? g = if g = f then some index else t.get? g := rfl

@[simp] theorem get?_erase (t : FieldTable) (f g : Field) :
    (t.erase f).get? g = if g = f then none else t.get? g := rfl

@[simp] theorem get?_overlay (t upper : FieldTable) (f : Field) :
    (t.overlay upper).get? f = (upper.get? f).or (t.get? f) := rfl

@[simp] theorem get?_map (t : FieldTable) (change : Int → Int) (f : Field) :
    (t.map change).get? f = (t.get? f).map change := rfl

@[simp] theorem get?_supplied (t : FieldTable) (f : Field) :
    t.supplied.get? f = (t.get? f).filter (0 ≤ ·) := rfl

theorem ext {s t : FieldTable} (h : ∀ f, s.get? f = t.get? f) : s = t := funext h

end FieldTable

end ProblemMatcher
