/-!
# File URIs

A file is named in messages to an editor by a URI: the path with every byte percent-encoded that is
not a letter, a digit, a slash or one of `_.-~`.
-/

namespace ProblemMatcher.Uri

def isPlain (b : UInt8) : Bool :=
  let c := Char.ofNat b.toNat
  b < 128 && (c.isAlphanum || c == '_' || c == '.' || c == '-' || c == '~' || c == '/')

def upperHexDigit (n : Nat) : Char :=
  if n < 10 then Char.ofNat (48 + n) else Char.ofNat (55 + n)

def encodeByte (b : UInt8) : List Char :=
  if isPlain b then [Char.ofNat b.toNat]
  else ['%', upperHexDigit (b.toNat / 16), upperHexDigit (b.toNat % 16)]

def encode (text : String) : String :=
  String.ofList (text.toUTF8.toList.flatMap encodeByte)

/-- The URI of a place in a file tree. -/
def ofPlace (place : List String) : String :=
  "file:///" ++ "/".intercalate (place.map encode)

end ProblemMatcher.Uri
