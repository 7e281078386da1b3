import ProblemMatcher.Text.DecimalDigit
import ProblemMatcher.Text.Whitespace
import ProblemMatcher.Text.Quoted

/-!
# Integers in text

An integer is written with decimal digits of any script, in one run or with single underscores
between them, after at most one sign, and with whitespace around it; the information separators do
not count as whitespace here. More than 4300 digits are refused.
-/

namespace ProblemMatcher.Text

inductive NumeralFault
  | notInteger (text : List Char)
  | tooManyDigits (count : Nat)
  deriving Repr, DecidableEq

/-- The most digits an integer may be written with. -/
def maxDigits : Nat := 4300

/-- The complaint about an over-long integer. -/
def tooManyDigitsMessage (count : Nat) : String :=
  s!"Exceeds the limit ({maxDigits} digits) for integer string conversion: " ++
    s!"value has {count} digits; use sys.set_int_max_str_digits() to increase the limit"

/-- A text that is no integer is quoted up to 200 characters. -/
def NumeralFault.message : NumeralFault → String
  | .notInteger text =>
    "invalid literal for int() with base 10: " ++ String.ofList ((quotedChars text).take 200)
  | .tooManyDigits count => tooManyDigitsMessage count

/-- The number written by decimal digits, the highest first. -/
def ofDigits (digits : List Nat) : Nat :=
  digits.foldl (fun n d => 10 * n + d) 0

def isNumeralBlank (c : Char) : Bool :=
  if c.toNat < 128 then isAsciiBlank c else isBlank c

def isNumeralChar (c : Char) : Bool :=
  isDecimalDigit c || c == '_'

/-- Every underscore stands between two digits, and a digit comes last. The flag says whether the
character before is a digit. -/
def wellSpaced : Bool → List Char → Bool
  | afterDigit, [] => afterDigit
  | afterDigit, c :: rest =>
    if c == '_' then afterDigit && wellSpaced false rest else wellSpaced true rest

def splitSign : List Char → Bool × List Char
  | '-' :: rest => (true, rest)
  | '+' :: rest => (false, rest)
  | s => (false, s)

/-- Reads an integer that takes up the whole text. -/
def parseInt (text : List Char) : Except NumeralFault Int :=
  let (negative, body) := splitSign (text.dropWhile isNumeralBlank)
  let run := body.takeWhile isNumeralChar
  let digits := run.filterMap digitValue?
  if !wellSpaced false run then .error (.notInteger text)
  else if digits.length > maxDigits then .error (.tooManyDigits digits.length)
  else if !(body.dropWhile isNumeralChar).all isNumeralBlank then .error (.notInteger text)
  else .ok (if negative then -(ofDigits digits : Int) else ofDigits digits)

end ProblemMatcher.Text
