import ProblemMatcher.Text.Numeral
import ProblemMatcher.Toml.Text

/-!
# TOML numbers, dates and times

A date is one of the calendar from year 1 on. A time may have a fraction, and behind a date an
offset. Digits may have single underscores between them. An integer in decimal digits may have as
many as integers may have anywhere.
-/

namespace ProblemMatcher.Toml

/-! ## Dates and times -/

def isLeap (year : Nat) : Bool :=
  year % 4 == 0 && (year % 100 != 0 || year % 400 == 0)

def monthLength (year month : Nat) : Nat :=
  if month == 2 then (if isLeap year then 29 else 28)
  else if month == 4 || month == 6 || month == 9 || month == 11 then 30
  else 31

def digitValue (c : Char) : Nat :=
  c.toNat - 48

/-- A number of two digits that is at most `most`. -/
def twoDigits? (most : Nat) (a b : Char) : Option Nat :=
  if a.isDigit && b.isDigit && 10 * digitValue a + digitValue b ≤ most then
    some (10 * digitValue a + digitValue b)
  else none

/-- The text behind a clock time without its fraction, if one starts here. -/
def dropClock? : List Char → Option (List Char)
  | a :: b :: ':' :: c :: d :: ':' :: e :: f :: rest => do
    let _ ← twoDigits? 23 a b
    let _ ← twoDigits? 59 c d
    let _ ← twoDigits? 59 e f
    return rest
  | _ => none

def dropFraction : List Char → List Char
  | '.' :: c :: rest => if c.isDigit then rest.dropWhile Char.isDigit else '.' :: c :: rest
  | s => s

/-- The text behind a time, if one starts here. -/
def dropTime? (s : List Char) : Option (List Char) :=
  (dropClock? s).map dropFraction

def dropOffset : List Char → List Char
  | [] => []
  | sign :: rest =>
    if sign = 'Z' || sign = 'z' then rest
    else if sign = '+' || sign = '-' then
      match rest with
      | a :: b :: ':' :: c :: d :: behind =>
        if (twoDigits? 23 a b).isSome && (twoDigits? 59 c d).isSome then behind else sign :: rest
      | _ => sign :: rest
    else sign :: rest

/-- A value and what is left behind the time that follows a date, if one does. -/
def readClock (s : List Char) : Value × List Char :=
  match s with
  | sep :: rest =>
    if sep = 'T' || sep = 't' || sep = ' ' then
      match dropTime? rest with
      | some rest => (.dateTime, dropOffset rest)
      | none => (.date, s)
    else (.date, s)
  | [] => (.date, s)

/-- Year, month and day, if a text of that form starts here. -/
def dateParts? : List Char → Option ((Nat × Nat × Nat) × List Char)
  | a :: b :: c :: d :: '-' :: e :: f :: '-' :: g :: h :: rest => do
    let century ← twoDigits? 99 a b
    let year ← twoDigits? 99 c d
    let month ← twoDigits? 12 e f
    let day ← twoDigits? 31 g h
    if month = 0 ∨ day = 0 then none else some ((100 * century + year, month, day), rest)
  | _ => none

/-- Reads a date, with a time or without, or a time alone, if one starts here. -/
def readMoment? (s : List Char) : Option (Except Fault (Value × List Char)) :=
  match dateParts? s with
  | some ((year, month, day), rest) =>
    some (if year = 0 ∨ monthLength year month < day then malformed else .ok (readClock rest))
  | none => (dropTime? s).map fun rest => .ok (.time, rest)

/-! ## Numbers -/

/-- The digits of a run in which single underscores may stand in front of digits. -/
def readDigits (isDigit : Char → Bool) : List Char → List Char × List Char
  | [] => ([], [])
  | [c] => if isDigit c then ([c], []) else ([], [c])
  | c :: d :: rest =>
    if isDigit c then
      let (ds, rest) := readDigits isDigit (d :: rest)
      (c :: ds, rest)
    else if c = '_' && isDigit d then
      let (ds, rest) := readDigits isDigit rest
      (d :: ds, rest)
    else ([], c :: d :: rest)

/-- A run of digits that starts with one, if there is one here. -/
def readRun? (isDigit : Char → Bool) : List Char → Option (List Char × List Char)
  | c :: rest => if isDigit c then some (readDigits isDigit (c :: rest)) else none
  | [] => none

def isOctal (c : Char) : Bool :=
  '0' ≤ c && c ≤ '7'

def isBinary (c : Char) : Bool :=
  c == '0' || c == '1'

def isHex (c : Char) : Bool :=
  (hexValue? c).isSome

def valueIn (base : Nat) (digits : List Char) : Nat :=
  digits.foldl (fun n c => base * n + (hexValue? c).getD 0) 0

/-- Reads an integer whose base is given by a letter behind a zero, if there is one here. -/
def readBased? : List Char → Option (Value × List Char)
  | '0' :: 'x' :: rest => (readRun? isHex rest).map fun (ds, rest) => (.int (valueIn 16 ds), rest)
  | '0' :: 'b' :: rest => (readRun? isBinary rest).map fun (ds, rest) => (.int (valueIn 2 ds), rest)
  | '0' :: 'o' :: rest => (readRun? isOctal rest).map fun (ds, rest) => (.int (valueIn 8 ds), rest)
  | _ => none

def splitSign : List Char → Bool × List Char
  | '-' :: rest => (true, rest)
  | '+' :: rest => (false, rest)
  | s => (false, s)

/-- The whole digits of a decimal number: a zero alone, or a run that starts with another digit. -/
def readWhole? : List Char → Option (List Char × List Char)
  | '0' :: rest => some (['0'], rest)
  | s => readRun? Char.isDigit s

/-- The text behind the fraction of a number, if it has one. -/
def afterFraction? : List Char → Option (List Char)
  | '.' :: rest => (readRun? Char.isDigit rest).map (·.2)
  | _ => none

/-- The text behind the exponent of a number, if it has one. -/
def afterExponent? : List Char → Option (List Char)
  | c :: rest =>
    if c = 'e' || c = 'E' then (readRun? Char.isDigit (splitSign rest).2).map (·.2) else none
  | [] => none

/-- The text behind the fraction and the exponent of a number, if it has one of them. -/
def afterFloatPart? (s : List Char) : Option (List Char) :=
  match afterFraction? s with
  | some rest => some ((afterExponent? rest).getD rest)
  | none => afterExponent? s

/-- Reads a decimal number, if there is one here. -/
def readDecimal? (s : List Char) : Option (Except Fault (Value × List Char)) :=
  let (negative, body) := splitSign s
  (readWhole? body).map fun (digits, rest) =>
    match afterFloatPart? rest with
    | some rest => .ok (.float, rest)
    | none =>
      if digits.length > Text.maxDigits then .error (.integerTooLong digits.length)
      else .ok (.int (if negative then -(valueIn 10 digits : Int) else valueIn 10 digits), rest)

/-! ## Words -/

/-- The words that are values. -/
def words : List (List Char × Value) := [
  ("true".toList, .bool true),
  ("false".toList, .bool false),
  ("inf".toList, .float),
  ("nan".toList, .float),
  ("+inf".toList, .float),
  ("-inf".toList, .float),
  ("+nan".toList, .float),
  ("-nan".toList, .float)]

def readWord? (s : List Char) : Option (Value × List Char) :=
  words.findSome? fun (word, v) =>
    if word.isPrefixOf s then some (v, s.drop word.length) else none

/-- Reads a value that holds no others. -/
def readScalar (s : List Char) : Except Fault (Value × List Char) :=
  match readString? s with
  | some found => found.map fun (text, rest) => (.str text, rest)
  | none =>
    match readMoment? s with
    | some found => found
    | none =>
      match readBased? s with
      | some found => .ok found
      | none =>
        match readDecimal? s with
        | some found => found
        | none =>
          match readWord? s with
          | some found => .ok found
          | none => malformed

end ProblemMatcher.Toml
