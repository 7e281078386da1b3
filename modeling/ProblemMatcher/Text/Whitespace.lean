/-!
# Whitespace

Three sets are in use. Unicode whitespace, with the four information separators of ASCII, is what
trimming removes; ASCII whitespace is the six characters of the usual C class.
-/

namespace ProblemMatcher.Text

/-- Space, tab, line feed, vertical tab, form feed and carriage return. -/
def isAsciiBlank (c : Char) : Bool :=
  c.toNat == 32 || (9 ≤ c.toNat && c.toNat ≤ 13)

/-- Unicode whitespace and the information separators. -/
def isBlank (c : Char) : Bool :=
  let n := c.toNat
  if n < 128 then isAsciiBlank c || (28 ≤ n && n ≤ 31)
  else n == 133 || n == 160 || n == 5760 || (8192 ≤ n && n ≤ 8202) || n == 8232 || n == 8233 ||
    n == 8239 || n == 8287 || n == 12288

def dropBlanks (s : List Char) : List Char :=
  s.dropWhile isBlank

/-- The text without the whitespace at both ends. -/
def trim (s : List Char) : List Char :=
  (dropBlanks (dropBlanks s).reverse).reverse

end ProblemMatcher.Text
