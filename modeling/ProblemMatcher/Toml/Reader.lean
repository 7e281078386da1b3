import ProblemMatcher.Toml.Scalar

/-!
# Reading TOML

A document is a list of statements, one a line: a header that opens a table, a header that adds a
table to an array, or a key with its value, which goes into the table that is open.

Which keys can no longer be added to is kept by `Taken`. A table opened by a header cannot be opened
again, nor can one made by a dotted key in an earlier part of the document. What is written as a
value, an array or a table in braces, is complete as it stands. A new item of an array starts
afresh.

Values nest up to a limit, of which a table in braces uses up more than an array.
-/

namespace ProblemMatcher.Toml

/-! ## Keys that are taken -/

/-- Which keys are taken. -/
structure Taken where
  /-- Tables that may not be opened or extended by a dotted key. -/
  declared : List Key := []
  /-- Values to which nothing may be added, at them or below. -/
  frozen : List Key := []
  /-- Tables that dotted keys have made since the last header. -/
  pending : List Key := []

namespace Taken

def isDeclared (k : Taken) (key : Key) : Bool :=
  k.declared.contains key

def isFrozen (k : Taken) (key : Key) : Bool :=
  k.frozen.any fun other => other.isPrefixOf key

def declare (k : Taken) (key : Key) : Taken :=
  { k with declared := key :: k.declared }

def freeze (k : Taken) (key : Key) : Taken :=
  { k with frozen := key :: k.frozen }

/-- The tables made by dotted keys are taken from here on. -/
def settle (k : Taken) : Taken :=
  { k with declared := k.pending ++ k.declared, pending := [] }

/-- Frees a key and all below it. -/
def release (k : Taken) (key : Key) : Taken :=
  { k with
    declared := k.declared.filter fun other => !key.isPrefixOf other
    frozen := k.frozen.filter fun other => !key.isPrefixOf other }

end Taken

/-! ## Values -/

/-- The text behind a comment, if one starts here. -/
def skipComment (s : List Char) : Except Fault (List Char) :=
  match s with
  | '#' :: rest =>
    let (comment, rest) := rest.span (· ≠ '\n')
    if comment.any isControl then malformed else .ok rest
  | _ => .ok s

/-- Skips whitespace, line breaks and comments; the flag says whether a comment is open. -/
def skipGapFrom : Bool → List Char → Except Fault (List Char)
  | _, [] => .ok []
  | true, c :: rest =>
    if c = '\n' then skipGapFrom false rest
    else if isControl c then malformed
    else skipGapFrom true rest
  | false, c :: rest =>
    if isSpaceOrBreak c then skipGapFrom false rest
    else if c = '#' then skipGapFrom true rest
    else .ok (c :: rest)

def skipGap : List Char → Except Fault (List Char) :=
  skipGapFrom false

/-- Adds a member to a table in braces, given the members that are complete. -/
def addInline (frozen : Taken) (t : Table) (key : Key) (v : Value) : Except Fault Table :=
  if frozen.isFrozen key then malformed
  else match t.updateAt false (·.add? (key.getLastD []) v) key.dropLast with
    | some t => .ok t
    | none => malformed

def expectEquals : List Char → Except Fault (List Char)
  | '=' :: rest => .ok (skipSpace rest)
  | _ => malformed

/-- The room that values have to nest in. -/
def depthLimit : Nat := 991

/-- What is left of the room inside an array, which needs a little to be read at all. -/
def roomInArray (room : Nat) : Except Fault Nat :=
  if room < 3 then .error .tooDeep else .ok (room - 2)

/-- What is left of the room inside a table in braces. -/
def roomInTable (room : Nat) : Except Fault Nat :=
  if room < 5 then .error .tooDeep else .ok (room - 3)

mutual

/-- Reads a value in some room. The first argument bounds the nesting and the number of names in
keys; twice the length of the text is enough. -/
def readValue : Nat → (room : Nat) → Step Value
  | 0, _, _ => malformed
  | bound + 1, room, s =>
    match s with
    | '[' :: rest => do
      let room ← roomInArray room
      match ← skipGap rest with
      | ']' :: rest => return (.arr [], rest)
      | rest =>
        let (items, rest) ← readItems bound room [] rest
        return (.arr items, rest)
    | '\x7b' :: rest => do
      let room ← roomInTable room
      match skipSpace rest with
      | '\x7d' :: rest => return (.table [], rest)
      | rest =>
        let (t, rest) ← readMembers bound room {} [] rest
        return (.table t, rest)
    | s => readScalar s

/-- Reads the items of an array from the start of one on. Items read so far are last first. -/
def readItems : Nat → (room : Nat) → List Value → Step (List Value)
  | 0, _, _, _ => malformed
  | bound + 1, room, read, s => do
    let (v, rest) ← readValue bound room s
    match ← skipGap rest with
    | ']' :: rest => return ((v :: read).reverse, rest)
    | ',' :: rest =>
      match ← skipGap rest with
      | ']' :: rest => return ((v :: read).reverse, rest)
      | rest => readItems bound room (v :: read) rest
    | _ => malformed

/-- Reads the members of a table in braces from the start of one on. -/
def readMembers : Nat → (room : Nat) → Taken → Table → Step Table
  | 0, _, _, _, _ => malformed
  | bound + 1, room, frozen, read, s => do
    let (key, rest) ← readNames bound s
    let (v, rest) ← readValue bound room (← expectEquals rest)
    let read ← addInline frozen read key v
    match skipSpace rest with
    | '\x7d' :: rest => return (read, rest)
    | ',' :: rest =>
      let frozen := if v.isContainer then frozen.freeze key else frozen
      readMembers bound room frozen read (skipSpace rest)
    | _ => malformed

end

/-! ## Documents -/

/-- A document read in part: its values, the table that is open, and the keys that are taken. -/
structure Draft where
  root : Table := []
  header : Key := []
  taken : Taken := {}

namespace Draft

/-- The document with other values, if the change is possible. -/
def withRoot (d : Draft) : Option Table → Except Fault Draft
  | some root => .ok { d with root }
  | none => malformed

/-- Opens a table. -/
def openTable (d : Draft) (key : Key) : Except Fault Draft :=
  if d.taken.isDeclared key || d.taken.isFrozen key then malformed
  else { d with header := key, taken := d.taken.declare key }.withRoot
    (d.root.updateAt true some key)

/-- Opens a new item of an array of tables. -/
def openItem (d : Draft) (key : Key) : Except Fault Draft :=
  if d.taken.isFrozen key then malformed
  else { d with header := key, taken := (d.taken.release key).declare key }.withRoot
    (d.root.updateAt true (·.append? (key.getLastD [])) key.dropLast)

/-- The tables that a dotted key passes through, from the document's root on. -/
def passed (d : Draft) (key : Key) : List Key :=
  (List.range (key.length - 1)).map fun n => d.header ++ key.take (n + 1)

/-- Adds a value to the open table. -/
def addValue (d : Draft) (key : Key) (v : Value) : Except Fault Draft :=
  let passed := d.passed key
  let place := d.header ++ key.dropLast
  if passed.any d.taken.isDeclared || d.taken.isFrozen place then malformed
  else
    let taken := { d.taken with pending := passed ++ d.taken.pending }
    { d with taken := if v.isContainer then taken.freeze (d.header ++ key) else taken }.withRoot
      (d.root.updateAt true (·.add? (key.getLastD []) v) place)

/-- Reads a statement. The first argument bounds what it is made of. -/
def readStatement (bound : Nat) (d : Draft) : Step Draft
  | '[' :: '[' :: rest => do
    let (key, rest) ← readNames bound (skipSpace rest)
    let d ← { d with taken := d.taken.settle }.openItem key
    match rest with
    | ']' :: ']' :: rest => return (d, rest)
    | _ => malformed
  | '[' :: rest => do
    let (key, rest) ← readNames bound (skipSpace rest)
    let d ← { d with taken := d.taken.settle }.openTable key
    match rest with
    | ']' :: rest => return (d, rest)
    | _ => malformed
  | '#' :: rest => .ok (d, '#' :: rest)
  | c :: rest =>
    if startsKey c then do
      let (key, rest) ← readNames bound (c :: rest)
      let rest ← expectEquals rest
      let (v, rest) ← readValue bound depthLimit rest
      return (← d.addValue key v, rest)
    else malformed
  | [] => .ok (d, [])

/-- Reads the statements of a text, on so many lines at most. -/
def readStatements (bound : Nat) : Nat → Draft → List Char → Except Fault Table
  | 0, d, _ => .ok d.root
  | lines + 1, d, s =>
    match skipSpace s with
    | [] => .ok d.root
    | '\n' :: rest => readStatements bound lines d rest
    | rest => do
      let (d, rest) ← d.readStatement bound rest
      match ← skipComment (skipSpace rest) with
      | [] => return d.root
      | '\n' :: rest => readStatements bound lines d rest
      | _ => malformed

end Draft

/-- Carriage returns in front of line feeds are dropped. -/
def joinBreaks : List Char → List Char
  | [] => []
  | [c] => [c]
  | c :: d :: rest =>
    if c = '\r' ∧ d = '\n' then joinBreaks (d :: rest) else c :: joinBreaks (d :: rest)

/-- The values of a document. -/
def parse (doc : List Char) : Except Fault Table :=
  Draft.readStatements (2 * doc.length + 2) (doc.length + 1) {} (joinBreaks doc)

end ProblemMatcher.Toml
