/-!
# Tokens of a pattern

A pattern is read in tokens: a backslash together with the character after it is one token, any
other character is one token. A backslash that ends the pattern is a token of its own, which no
pattern may reach.
-/

namespace ProblemMatcher.Regex

inductive Token
  | char (c : Char)
  | escape (c : Char)
  | loneBackslash
  deriving Repr, DecidableEq

namespace Token

/-- The tokens of a text, from the left. -/
def ofChars : List Char → List Token
  | [] => []
  | [c] => if c = '\\' then [.loneBackslash] else [.char c]
  | c :: d :: rest =>
    if c = '\\' then .escape d :: ofChars rest else .char c :: ofChars (d :: rest)

/-- The characters a token is written with. -/
def text : Token → List Char
  | .char c => [c]
  | .escape c => ['\\', c]
  | .loneBackslash => ['\\']

theorem flatMap_text_ofChars (s : List Char) : (ofChars s).flatMap text = s := by
  fun_induction ofChars s with
  | case1 => rfl
  | case2 => rfl
  | case3 => rfl
  | case4 d rest ih => simp [text, ih]
  | case5 c d rest hc ih => simp [text, ih]

end Token

end ProblemMatcher.Regex
