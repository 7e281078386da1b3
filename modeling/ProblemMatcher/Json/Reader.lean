import ProblemMatcher.Json.Value
import ProblemMatcher.Text.Numeral

/-!
# Reading JSON

A document is one value with whitespace around it. Besides the numbers of the standard, `NaN`,
`Infinity` and `-Infinity` are values; control characters may not stand in strings; of two members
with one name the last one counts; an integer may have as many digits as integers may have anywhere.
Arrays and objects nest up to a limit.

A surrogate without its partner is no character. Texts with one are left out throughout: where one
is escaped in a string it is replaced, and what is said about such a document is about the text with
the replacement.

The functions below take the text that is left and give back what is left behind the part that they
read. A fault is told by how much was left where it shows; `parse` turns that into a line, a column
and an offset.
-/

namespace ProblemMatcher.Json

open ProblemMatcher.Text

inductive Fault
  | byteOrderMark
  | expectingValue
  | expectingName
  | expectingColon
  | expectingComma
  | extraData
  | unterminatedString
  | controlCharacter
  | badEscape
  | badUnicodeEscape
  deriving Repr, DecidableEq

namespace Fault

def text : Fault → String
  | .byteOrderMark => "Unexpected UTF-8 BOM (decode using utf-8-sig)"
  | .expectingValue => "Expecting value"
  | .expectingName => "Expecting property name enclosed in double quotes"
  | .expectingColon => "Expecting ':' delimiter"
  | .expectingComma => "Expecting ',' delimiter"
  | .extraData => "Extra data"
  | .unterminatedString => "Unterminated string starting at"
  | .controlCharacter => "Invalid control character at"
  | .badEscape => "Invalid \\escape"
  | .badUnicodeEscape => "Invalid \\uXXXX escape"

end Fault

/-- What holds other values. -/
inductive Container
  | array
  | object
  deriving Repr, DecidableEq

namespace Container

def name : Container → String
  | .array => "array"
  | .object => "object"

end Container

/-- Arrays and objects nest at most this deep. -/
def maxDepth : Nat := 990

/-- Why a document has no value. Lines and columns count from 1, offsets from 0. -/
inductive ReadError
  | malformed (what : Fault) (line column offset : Nat)
  | integerTooLong (digits : Nat)
  /-- The container is one too many inside the others. -/
  | tooDeep (innermost : Container)
  deriving Repr, DecidableEq

namespace ReadError

def message : ReadError → String
  | .malformed what line column offset =>
    s!"{what.text}: line {line} column {column} (char {offset})"
  | .integerTooLong digits => tooManyDigitsMessage digits
  | .tooDeep innermost =>
    let kind := innermost.name
    s!"maximum recursion depth exceeded while decoding a JSON {kind} from a unicode string"

end ReadError

/-- Where reading stops: a fault with the length of the text left there, a long integer, or a
container too deep. -/
inductive Halt
  | fault (what : Fault) (left : Nat)
  | integerTooLong (digits : Nat)
  | tooDeep (innermost : Container)
  deriving Repr, DecidableEq

def halt {α : Type} (what : Fault) (rest : List Char) : Except Halt α :=
  .error (.fault what rest.length)

def isSpace (c : Char) : Bool :=
  c == ' ' || c == '\t' || c == '\n' || c == '\r'

def skipSpace (s : List Char) : List Char :=
  s.dropWhile isSpace

/-! ## Strings -/

def hexValue? (c : Char) : Option Nat :=
  if c.isDigit then some (c.toNat - 48)
  else if 'a' ≤ c && c ≤ 'f' then some (c.toNat - 87)
  else if 'A' ≤ c && c ≤ 'F' then some (c.toNat - 55)
  else none

/-- The value of four hexadecimal digits. -/
def hexQuad? (a b c d : Char) : Option Nat :=
  match hexValue? a, hexValue? b, hexValue? c, hexValue? d with
  | some a, some b, some c, some d => some (4096 * a + 256 * b + 16 * c + d)
  | _, _, _, _ => none

def shortEscape? : Char → Option Char
  | '"' => some '"'
  | '\\' => some '\\'
  | '/' => some '/'
  | 'b' => some '\x08'
  | 'f' => some '\x0c'
  | 'n' => some '\n'
  | 'r' => some '\r'
  | 't' => some '\t'
  | _ => none

def isHighSurrogate (n : Nat) : Bool := 0xD800 ≤ n && n ≤ 0xDBFF

def isLowSurrogate (n : Nat) : Bool := 0xDC00 ≤ n && n ≤ 0xDFFF

def joinSurrogates (high low : Nat) : Nat :=
  0x10000 + (high - 0xD800) * 0x400 + (low - 0xDC00)

/-- The character of a code unit that stands alone. A surrogate is none, and is replaced: strings
with a lone surrogate are left out. -/
def unitChar (n : Nat) : Char :=
  if 0xD800 ≤ n && n ≤ 0xDFFF then '\uFFFD' else Char.ofNat n

/-- Reads the rest of a string; `opening` is the text from its opening quote on. An escaped code
unit must have a character behind it. -/
def readString (opening : List Char) : List Char → List Char → Except Halt (List Char × List Char)
  | _, [] => halt .unterminatedString opening
  | read, '\\' :: 'u' :: a :: b :: c :: d :: '\\' :: 'u' :: e :: f :: g :: h :: next :: rest =>
    match hexQuad? a b c d with
    | none =>
      halt .badUnicodeEscape
        ('u' :: a :: b :: c :: d :: '\\' :: 'u' :: e :: f :: g :: h :: next :: rest)
    | some unit =>
      if isHighSurrogate unit then
        match hexQuad? e f g h with
        | none => halt .badUnicodeEscape ('u' :: e :: f :: g :: h :: next :: rest)
        | some second =>
          if isLowSurrogate second then
            readString opening (Char.ofNat (joinSurrogates unit second) :: read) (next :: rest)
          else
            readString opening (unitChar unit :: read)
              ('\\' :: 'u' :: e :: f :: g :: h :: next :: rest)
      else
        readString opening (unitChar unit :: read) ('\\' :: 'u' :: e :: f :: g :: h :: next :: rest)
  | read, '\\' :: 'u' :: a :: b :: c :: d :: next :: rest =>
    match hexQuad? a b c d with
    | none => halt .badUnicodeEscape ('u' :: a :: b :: c :: d :: next :: rest)
    | some unit => readString opening (unitChar unit :: read) (next :: rest)
  | _, '\\' :: 'u' :: rest => halt .badUnicodeEscape ('u' :: rest)
  | _, ['\\'] => halt .unterminatedString opening
  | read, '\\' :: c :: rest =>
    match shortEscape? c with
    | some e => readString opening (e :: read) rest
    | none => halt .badEscape ('\\' :: c :: rest)
  | read, c :: rest =>
    if c = '"' then .ok (read.reverse, rest)
    else if c.toNat < 32 then halt .controlCharacter (c :: rest)
    else readString opening (c :: read) rest

/-! ## Numbers -/

/-- The digits at the front of a text, and the rest. -/
def digits (s : List Char) : List Char × List Char :=
  s.span Char.isDigit

/-- The digits of a fraction, if the text goes on with one. -/
def fraction : List Char → List Char × List Char
  | '.' :: c :: rest => if c.isDigit then digits (c :: rest) else ([], '.' :: c :: rest)
  | s => ([], s)

def splitExponentSign : List Char → Bool × List Char
  | '-' :: rest => (true, rest)
  | '+' :: rest => (false, rest)
  | s => (false, s)

/-- An exponent, if the text goes on with one that has a digit. -/
def exponent? : List Char → Option Int × List Char
  | [] => (none, [])
  | c :: rest =>
    if c = 'e' || c = 'E' then
      let (negative, rest') := splitExponentSign rest
      let (ds, rest'') := digits rest'
      if ds.isEmpty then (none, c :: rest)
      else
        let n : Int := ofDigits (ds.filterMap digitValue?)
        (some (if negative then -n else n), rest'')
    else (none, c :: rest)

/-- The whole digits at the front of a number: a zero alone, or digits that start with another. -/
def wholeDigits : List Char → Option (List Char × List Char)
  | [] => none
  | c :: rest =>
    if c = '0' then some (['0'], rest) else if c.isDigit then some (digits (c :: rest)) else none

/-- Reads a number that may follow a sign; `start` is the text from the sign on. -/
def readNumber (start : List Char) (negative : Bool) (s : List Char) :
    Except Halt (Value × List Char) :=
  match wholeDigits s with
  | none => halt .expectingValue start
  | some (whole, rest) =>
    let (part, rest) := fraction rest
    let (exponent, rest) := exponent? rest
    let value := ofDigits ((whole ++ part).filterMap digitValue?)
    if part.isEmpty && exponent.isNone then
      if whole.length > maxDigits then .error (.integerTooLong whole.length)
      else .ok (.int (if negative then -(value : Int) else value), rest)
    else .ok (.float (.ofDecimal negative value (exponent.getD 0 - part.length)), rest)

/-! ## Values -/

/-- The rest behind a word, if the text starts with it. -/
def dropWord? (word s : List Char) : Option (List Char) :=
  if word.isPrefixOf s then some (s.drop word.length) else none

/-- The words that are values. -/
def words : List (List Char × Value) := [
  ("null".toList, .null),
  ("true".toList, .bool true),
  ("false".toList, .bool false),
  ("NaN".toList, .float .nan),
  ("Infinity".toList, .float (.infinite false)),
  ("-Infinity".toList, .float (.infinite true))]

def readWord? (s : List Char) : Option (Value × List Char) :=
  words.findSome? fun (word, v) => (dropWord? word s).map (v, ·)

/-- A value that holds no others. -/
def readScalar (s : List Char) : Except Halt (Value × List Char) :=
  match readWord? s with
  | some found => .ok found
  | none =>
    match s with
    | '"' :: rest =>
      (readString s [] rest).map fun (cs, rest) => (.str (String.ofList cs), rest)
    | '-' :: rest => readNumber s true rest
    | s => readNumber s false s

/-- A member's name and the text behind its colon. -/
def readName (s : List Char) : Except Halt (String × List Char) :=
  match s with
  | '"' :: rest => do
    let (cs, rest) ← readString s [] rest
    match skipSpace rest with
    | ':' :: rest => return (String.ofList cs, skipSpace rest)
    | rest => halt .expectingColon rest
  | s => halt .expectingName s

mutual

/-- Reads a value with `room` for so many containers inside one another. The first argument bounds
the nesting and the items together; twice the length of the text is enough. -/
def readValue : Nat → (room : Nat) → List Char → Except Halt (Value × List Char)
  | 0, _, s => halt .expectingValue s
  | bound + 1, room, s =>
    match s, room with
    | '[' :: _, 0 => .error (.tooDeep .array)
    | '\x7b' :: _, 0 => .error (.tooDeep .object)
    | '[' :: rest, room + 1 =>
      match skipSpace rest with
      | ']' :: rest => .ok (.arr [], rest)
      | rest => (readItems bound room [] rest).map fun (items, rest) => (.arr items, rest)
    | '\x7b' :: rest, room + 1 =>
      match skipSpace rest with
      | '\x7d' :: rest => .ok (.obj [], rest)
      | rest => (readMembers bound room [] rest).map fun (members, rest) => (.obj members, rest)
    | s, _ => readScalar s

/-- Reads the items of an array from the start of one on. Items read so far are last first. -/
def readItems : Nat → (room : Nat) → List Value → List Char →
    Except Halt (List Value × List Char)
  | 0, _, _, s => halt .expectingValue s
  | bound + 1, room, read, s => do
    let (v, rest) ← readValue bound room s
    match skipSpace rest with
    | ']' :: rest => return ((v :: read).reverse, rest)
    | ',' :: rest => readItems bound room (v :: read) (skipSpace rest)
    | rest => halt .expectingComma rest

/-- Reads the members of an object from the start of one on. -/
def readMembers : Nat → (room : Nat) → List (String × Value) → List Char →
    Except Halt (List (String × Value) × List Char)
  | 0, _, _, s => halt .expectingValue s
  | bound + 1, room, read, s => do
    let (name, rest) ← readName s
    let (v, rest) ← readValue bound room rest
    let read := Value.insert read name v
    match skipSpace rest with
    | '\x7d' :: rest => return (read, rest)
    | ',' :: rest => readMembers bound room read (skipSpace rest)
    | rest => halt .expectingComma rest

end

/-- Reads a whole document. -/
def readDocument (doc : List Char) : Except Halt Value :=
  if doc.head? = some '\uFEFF' then halt .byteOrderMark doc
  else do
    let (v, rest) ← readValue (2 * doc.length + 2) maxDepth (skipSpace doc)
    match skipSpace rest with
    | [] => return v
    | rest => halt .extraData rest

/-- The line and column of an offset, counted from 1. -/
def lineColumn (doc : List Char) (offset : Nat) : Nat × Nat :=
  let before := doc.take offset
  (before.count '\n' + 1, (before.reverse.takeWhile (· ≠ '\n')).length + 1)

def Halt.toError (doc : List Char) : Halt → ReadError
  | .fault what left =>
    let offset := doc.length - left
    let (line, column) := lineColumn doc offset
    .malformed what line column offset
  | .integerTooLong digits => .integerTooLong digits
  | .tooDeep innermost => .tooDeep innermost

/-- The value of a JSON document. -/
def parseChars (doc : List Char) : Except ReadError Value :=
  (readDocument doc).mapError (Halt.toError doc)

def parse (doc : String) : Except ReadError Value :=
  parseChars doc.toList

end ProblemMatcher.Json
