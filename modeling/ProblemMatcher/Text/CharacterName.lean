import ProblemMatcher.Text.CharacterName.Alias
import ProblemMatcher.Text.CharacterName.BasicPlane
import ProblemMatcher.Text.CharacterName.HigherPlanes

/-!
# Character names

Characters can be named in an escape by the names that Unicode gives them.

Most names are listed in tables and found in letters of any case. Some names are a stem and the code
point in hexadecimal digits. The name of a Hangul syllable is made of the names of its letters, and
that of a unified ideograph is a stem and its code point; both are found in capital letters only.
-/

namespace ProblemMatcher.Text

/-! ## Tables -/

/-- The value of a hexadecimal digit, a capital one if it is a letter. -/
def hexDigit? (c : Char) : Option Nat :=
  if c.isDigit then some (c.toNat - 48)
  else if 'A' ≤ c && c ≤ 'F' then some (c.toNat - 55)
  else none

/-- The number that capital hexadecimal digits stand for. -/
def hexNumber? (digits : List Char) : Option Nat :=
  digits.foldlM (fun n c => (hexDigit? c).map (16 * n + ·)) 0

/-- The words of a name, which shares its first words with the name before. -/
def nextWords (before : List String) : List String → List String
  | [] => []
  | shared :: rest => before.take (shared.toNat?.getD 0) ++ rest

/-- How far after a name the wanted one comes in a line. -/
def distance? (wanted : List String) : Nat → List String → List String → Option Nat
  | count, before, entries =>
    if before == wanted then some count
    else match entries with
      | [] => none
      | entry :: entries =>
        distance? wanted (count + 1) (nextWords before (entry.splitOn " ")) entries

/-- The code point that a line of a table gives to a name. -/
def codeInLine? (wanted : List String) (line : String) : Option Nat :=
  match line.splitOn "/" with
  | [] => none
  | first :: entries =>
    match (first.splitOn " ").filter (· != "") with
    | [] => none
    | code :: words => do
      let count ← distance? wanted 0 words entries
      return (← hexNumber? code.toList) + count

/-- The code point that a table gives to a name. -/
def codeInTable? (wanted : List String) (table : String) : Option Nat :=
  (table.splitOn "\n").findSome? (codeInLine? wanted)

/-! ## Names that follow a rule -/

/-- What follows a stem. -/
def afterStem? (stem : String) (name : List Char) : Option (List Char) :=
  if stem.toList.isPrefixOf name then some (name.drop stem.length) else none

/-- A code point of a stretch, by a stem and its hexadecimal digits. -/
def numbered? (name : List Char) (stem : String) (first last : Nat) : Option Nat := do
  let digits ← afterStem? stem name
  let code ← hexNumber? digits
  if digits.length = (if code < 0x10000 then 4 else 5) && first ≤ code && code ≤ last then code
  else none

/-- Stretches of characters whose names end in their code points. -/
def numberedStretches : List (String × Nat × Nat) := [
  ("CJK COMPATIBILITY IDEOGRAPH-", 0xF900, 0xFA6D),
  ("CJK COMPATIBILITY IDEOGRAPH-", 0xFA70, 0xFAD9),
  ("CJK COMPATIBILITY IDEOGRAPH-", 0x2F800, 0x2FA1D),
  ("KHITAN SMALL SCRIPT CHARACTER-", 0x18B00, 0x18CD5),
  ("NUSHU CHARACTER-", 0x1B170, 0x1B2FB)]

/-- The stretches of the unified ideographs. -/
def unifiedIdeographs : List (Nat × Nat) := [
  (0x3400, 0x4DBF), (0x4E00, 0x9FFF), (0x20000, 0x2A6DF), (0x2A700, 0x2B738), (0x2B740, 0x2B81D),
  (0x2B820, 0x2CEA1), (0x2CEB0, 0x2EBE0), (0x30000, 0x3134A)]

/-- A unified ideograph by its four or five digits. -/
def ideograph? (digits : List Char) : Option Nat := do
  let code ← hexNumber? digits
  if (digits.length = 4 || digits.length = 5) &&
      unifiedIdeographs.any (fun (first, last) => first ≤ code && code ≤ last) then code
  else none

/-- The names of the leading consonants of a Hangul syllable, in code order. -/
def leadingConsonants : List String :=
  ["G", "GG", "N", "D", "DD", "R", "M", "B", "BB", "S", "SS", "", "J", "JJ", "C", "K", "T", "P",
    "H"]

/-- The names of the vowels of a Hangul syllable, in code order. -/
def vowels : List String :=
  ["A", "AE", "YA", "YAE", "EO", "E", "YEO", "YE", "O", "WA", "WAE", "OE", "YO", "U", "WEO", "WE",
    "WI", "YU", "EU", "YI", "I"]

/-- The names of the trailing consonants of a Hangul syllable, in code order: the first is none. -/
def trailingConsonants : List String :=
  ["", "G", "GG", "GS", "N", "NJ", "NH", "D", "L", "LG", "LM", "LB", "LS", "LT", "LP", "LH", "M",
    "B", "BS", "S", "SS", "NG", "J", "C", "K", "T", "P", "H"]

/-- The longest of some letter names that a text begins with: its index, and what follows it. -/
def longestLetter? (letters : List String) (text : List Char) : Option (Nat × List Char) :=
  letters.zipIdx.foldl
    (fun best (letter, i) =>
      match afterStem? letter text with
      | none => best
      | some rest =>
        if best.all fun (_, shortest) => rest.length < shortest.length then some (i, rest)
        else best)
    none

/-- A Hangul syllable by the names of its letters, each taken as long as it can be. -/
def syllable? (letters : List Char) : Option Nat := do
  let (l, rest) ← longestLetter? leadingConsonants letters
  let (v, rest) ← longestLetter? vowels rest
  let (t, rest) ← longestLetter? trailingConsonants rest
  if rest.isEmpty then some (0xAC00 + (l * vowels.length + v) * trailingConsonants.length + t)
  else none

/-! ## All names -/

/-- The code point of a name whose letters may be of any case. -/
def codeNamed? (name : String) : Option Nat :=
  let name := name.toUpper
  let words := name.splitOn " "
  (numberedStretches.findSome? fun (stem, first, last) => numbered? name.toList stem first last) <|>
    codeInTable? words aliasNames <|> codeInTable? words basicPlaneNames <|>
    codeInTable? words higherPlaneNames

/-- The character of a name. -/
def characterNamed? (name : String) : Option Char :=
  let code :=
    match afterStem? "HANGUL SYLLABLE " name.toList with
    | some letters => syllable? letters
    | none =>
      match afterStem? "CJK UNIFIED IDEOGRAPH-" name.toList with
      | some digits => ideograph? digits
      | none => codeNamed? name
  code.map Char.ofNat

end ProblemMatcher.Text
