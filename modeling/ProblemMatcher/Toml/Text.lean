import ProblemMatcher.Toml.Value

/-!
# TOML strings and keys

A basic string has escapes, a literal one has none; either may spread over lines between tripled
quotes. A backslash at the end of a line drops the break and the whitespace up to the next text.

The functions take the text that is left and give back what is left behind the part that they read.
-/

namespace ProblemMatcher.Toml

/-- Reads a part of the text. -/
abbrev Step (α : Type) := List Char → Except Fault (α × List Char)

def malformed {α : Type} : Except Fault α :=
  .error .malformed

/-- Whitespace within a line. -/
def isSpace (c : Char) : Bool :=
  c == ' ' || c == '\t'

def isSpaceOrBreak (c : Char) : Bool :=
  isSpace c || c == '\n'

def skipSpace (s : List Char) : List Char :=
  s.dropWhile isSpace

/-- A control character that may not stand in comments and in strings on one line. -/
def isControl (c : Char) : Bool :=
  (c.toNat < 32 && c != '\t') || c.toNat == 127

/-- A character that may not stand in a string. -/
def isForbidden (multiline : Bool) (c : Char) : Bool :=
  isControl c && !(multiline && c == '\n')

/-! ## Strings -/

def hexValue? (c : Char) : Option Nat :=
  if c.isDigit then some (c.toNat - 48)
  else if 'a' ≤ c && c ≤ 'f' then some (c.toNat - 87)
  else if 'A' ≤ c && c ≤ 'F' then some (c.toNat - 55)
  else none

/-- The character whose code point is written in hexadecimal digits. -/
def scalar? (digits : List Char) : Option Char := do
  let values ← digits.mapM hexValue?
  let n := values.foldl (fun n d => 16 * n + d) 0
  if n.isValidChar then some (Char.ofNat n) else none

def shortEscape? : Char → Option Char
  | 'b' => some '\x08'
  | 't' => some '\t'
  | 'n' => some '\n'
  | 'f' => some '\x0c'
  | 'r' => some '\r'
  | '"' => some '"'
  | '\\' => some '\\'
  | _ => none

/-- The line ends here, apart from whitespace. -/
def endsLine (s : List Char) : Bool :=
  (skipSpace s).head? == some '\n'

/-- Reads the rest of a basic string. While `skipping`, whitespace is dropped; what has been read
so far is last first. -/
def readBasic (multiline : Bool) : Bool → List Char → Step (List Char)
  | _, _, [] => malformed
  | _, read, '\\' :: 'u' :: a :: b :: c :: d :: rest =>
    match scalar? [a, b, c, d] with
    | some e => readBasic multiline false (e :: read) rest
    | none => malformed
  | _, read, '\\' :: 'U' :: a :: b :: c :: d :: e :: f :: g :: h :: rest =>
    match scalar? [a, b, c, d, e, f, g, h] with
    | some e => readBasic multiline false (e :: read) rest
    | none => malformed
  | _, read, '\\' :: c :: rest =>
    match shortEscape? c with
    | some e => readBasic multiline false (e :: read) rest
    | none =>
      if multiline && endsLine (c :: rest) then readBasic multiline true read (c :: rest)
      else malformed
  | _, read, '"' :: '"' :: '"' :: rest =>
    .ok (read.reverse, if multiline then rest else '"' :: '"' :: rest)
  | skipping, read, c :: rest =>
    if skipping && isSpaceOrBreak c then readBasic multiline true read rest
    else if c = '"' && !multiline then .ok (read.reverse, rest)
    else if isForbidden multiline c then malformed
    else readBasic multiline false (c :: read) rest

/-- Reads the rest of a literal string. -/
def readLiteral (multiline : Bool) : List Char → Step (List Char)
  | _, [] => malformed
  | read, '\'' :: '\'' :: '\'' :: rest =>
    .ok (read.reverse, if multiline then rest else '\'' :: '\'' :: rest)
  | read, c :: rest =>
    if c = '\'' && !multiline then .ok (read.reverse, rest)
    else if isForbidden multiline c then malformed
    else readLiteral multiline (c :: read) rest

/-- A break right behind tripled quotes is not part of the string. -/
def dropFirstBreak : List Char → List Char
  | '\n' :: rest => rest
  | s => s

/-- Up to two more quotes behind tripled ones belong to the string. -/
def takeQuotes (quote : Char) : List Char × List Char → List Char × List Char
  | (text, rest) =>
    let more := (rest.take 2).takeWhile (· == quote)
    (text ++ more, rest.drop more.length)

/-- Reads a string of any kind, if one starts here. -/
def readString? : List Char → Option (Except Fault (List Char × List Char))
  | '"' :: '"' :: '"' :: rest =>
    some ((readBasic true false [] (dropFirstBreak rest)).map (takeQuotes '"'))
  | '"' :: rest => some (readBasic false false [] rest)
  | '\'' :: '\'' :: '\'' :: rest =>
    some ((readLiteral true [] (dropFirstBreak rest)).map (takeQuotes '\''))
  | '\'' :: rest => some (readLiteral false [] rest)
  | _ => none

/-! ## Keys -/

def isBare (c : Char) : Bool :=
  c.isAlphanum || c == '-' || c == '_'

def startsKey (c : Char) : Bool :=
  isBare c || c == '"' || c == '\''

def readName : Step Name
  | '"' :: rest => readBasic false false [] rest
  | '\'' :: rest => readLiteral false [] rest
  | c :: rest => if isBare c then .ok ((c :: rest).span isBare) else malformed
  | [] => malformed

/-- Reads the names of a key and the whitespace behind it, so many names at most. -/
def readNames : Nat → Step Key
  | 0, _ => malformed
  | bound + 1, s => do
    let (name, rest) ← readName s
    match skipSpace rest with
    | '.' :: rest =>
      let (names, rest) ← readNames bound (skipSpace rest)
      return (name :: names, rest)
    | rest => return ([name], rest)

end ProblemMatcher.Toml
