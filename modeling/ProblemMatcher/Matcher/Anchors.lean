/-!
# Anchors of a pattern

The anchors at the ends of a pattern make sense only while it stands alone, and are taken off
before patterns are joined. A dollar sign that an odd number of backslashes precedes is a character
of the pattern, not an anchor.
-/

namespace ProblemMatcher.Matcher

def dropLeadingAnchor : List Char → List Char
  | '^' :: rest => rest
  | source => source

/-- Takes the dollar sign off a pattern that is given last character first. -/
def dropFinalAnchor : List Char → List Char
  | '$' :: before =>
    if (before.takeWhile (· == '\\')).length % 2 == 1 then '$' :: before else before
  | source => source

def stripChars (source : List Char) : List Char :=
  (dropFinalAnchor (dropLeadingAnchor source).reverse).reverse

/-- The pattern without a leading `^` and without a trailing `$` that is not escaped. -/
def stripAnchors (source : String) : String :=
  String.ofList (stripChars source.toList)

end ProblemMatcher.Matcher
