import ProblemMatcher.Text.Printable

/-!
# Quoted text

A text is shown between quotes, on one line, in printable characters only. The quotes are single
ones unless the text holds a single quote and no double one. The quote in use and the backslash get
a backslash; tab, line feed and carriage return have short escapes; any other unprintable character
is written by its code in two, four or eight hexadecimal digits.
-/

namespace ProblemMatcher.Text

/-- The digit of a value below sixteen. -/
def hexDigit (n : Nat) : Char :=
  if n < 10 then Char.ofNat (48 + n) else Char.ofNat (87 + n)

/-- The lowest `width` hexadecimal digits of a number. -/
def hexDigits : Nat → Nat → List Char
  | 0, _ => []
  | width + 1, n => hexDigits width (n / 16) ++ [hexDigit (n % 16)]

def quoteFor (s : List Char) : Char :=
  if s.contains '\'' && !s.contains '"' then '"' else '\''

def escapeQuoted (quote c : Char) : List Char :=
  if c == quote || c == '\\' then ['\\', c]
  else if c == '\t' then ['\\', 't']
  else if c == '\n' then ['\\', 'n']
  else if c == '\r' then ['\\', 'r']
  else if isPrintable c then [c]
  else if c.toNat < 0x100 then '\\' :: 'x' :: hexDigits 2 c.toNat
  else if c.toNat < 0x10000 then '\\' :: 'u' :: hexDigits 4 c.toNat
  else '\\' :: 'U' :: hexDigits 8 c.toNat

def quotedChars (s : List Char) : List Char :=
  let quote := quoteFor s
  quote :: s.flatMap (escapeQuoted quote) ++ [quote]

def quoted (s : String) : String :=
  String.ofList (quotedChars s.toList)

end ProblemMatcher.Text
