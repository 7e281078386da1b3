import ProblemMatcher.Number.Binary64

/-!
# Shortest decimal text

A number is written with the fewest significant digits that read back as the same number, and among
those with the digits nearest to it, the even ones if two are equally near. The decimals that read
back lie between the midpoints to the two neighbours of the number; the midpoints themselves do if
the mantissa is even.

Between 0.0001 and 10 ^ 16 a number is written positionally, with at least one digit after the
point, and otherwise with an exponent of a sign and at least two digits.
-/

namespace ProblemMatcher.Binary64

/-- Four times the number and its two midpoints, as multiples of one power of two: the lower
midpoint, the number, the upper midpoint, and the exponent of that power. -/
def interval (mantissa : Nat) (exponent : Int) : Nat × Nat × Nat × Int :=
  let isLeastOfBinade := mantissa = Nat.pow 2 52 && leastExponent < exponent
  let lower := if isLeastOfBinade then 4 * mantissa - 1 else 4 * mantissa - 2
  (lower, 4 * mantissa, 4 * mantissa + 2, exponent - 2)

/-- A number times a power, if the exponent is not negative. -/
def timesPower (n base : Nat) (exponent : Int) : Nat :=
  if exponent < 0 then n else n * Nat.pow base exponent.toNat

/-- A quotient of a multiple of a power of two by a power of ten. -/
def scaled (n : Nat) (two ten : Int) : Nat × Nat :=
  (timesPower (timesPower n 2 two) 10 (-ten), timesPower (timesPower 1 2 (-two)) 10 ten)

/-- The multiple of `10 ^ ten` nearest to a number, if it reads back as that number. -/
def onGrid? (mantissa : Nat) (exponent ten : Int) : Option Nat :=
  let (lower, value, upper, two) := interval mantissa exponent
  let (num, den) := scaled value two ten
  let (lowNum, _) := scaled lower two ten
  let (highNum, _) := scaled upper two ten
  let inside (k : Nat) : Bool :=
    if mantissa % 2 == 0 then lowNum ≤ k * den && k * den ≤ highNum
    else lowNum < k * den && k * den < highNum
  let below := num / den
  let nearest := roundQuotient num den
  let other := if nearest = below then below + 1 else below
  [nearest, other].find? inside

/-- The exponent of ten of the leading digit of a quotient. -/
def leadingTen (num den : Nat) : Int :=
  if den ≤ num then (toString (num / den)).length - 1
  else -((toString ((den - 1) / num)).length : Int)

/-- Tries grids of `10 ^ ten` and finer ones. -/
def finestGrid (mantissa : Nat) (exponent : Int) : Nat → Int → Nat × Int
  | 0, ten => (0, ten)
  | tries + 1, ten =>
    match onGrid? mantissa exponent ten with
    | some k => (k, ten)
    | none => finestGrid mantissa exponent tries (ten - 1)

/-- The shortest digits of a positive number and the exponent of ten of the last one. Seventeen
digits always read back. -/
def shortestDigits (mantissa : Nat) (exponent : Int) : Nat × Int :=
  let (num, den) := scaled mantissa exponent 0
  finestGrid mantissa exponent 18 (leadingTen num den + 1)

/-- The digits without the zeros at their end, and the exponent of ten of the last one. -/
def dropZeros : Nat → Nat → Int → Nat × Int
  | 0, digits, ten => (digits, ten)
  | rounds + 1, digits, ten =>
    if digits % 10 == 0 && digits != 0 then dropZeros rounds (digits / 10) (ten + 1)
    else (digits, ten)

def zeros (n : Nat) : List Char :=
  List.replicate n '0'

/-- Digits with a point after the first `before` of them, or with zeros in front. -/
def positional (digits : List Char) (before : Int) : List Char :=
  if before ≤ 0 then '0' :: '.' :: zeros (-before).toNat ++ digits
  else if digits.length ≤ before.toNat then
    digits ++ zeros (before.toNat - digits.length) ++ ['.', '0']
  else digits.take before.toNat ++ '.' :: digits.drop before.toNat

def exponentText (e : Int) : List Char :=
  let digits := (toString e.natAbs).toList
  (if e < 0 then '-' else '+') :: (if digits.length < 2 then '0' :: digits else digits)

def exponential (digits : List Char) (e : Int) : List Char :=
  let mantissa := match digits with
    | [] => []
    | [d] => [d]
    | d :: rest => d :: '.' :: rest
  mantissa ++ 'e' :: exponentText e

/-- The text of a number that is not negative. -/
def magnitudeText (mantissa : Nat) (exponent : Int) : List Char :=
  if mantissa = 0 then ['0', '.', '0']
  else
    let (k, ten) := shortestDigits mantissa exponent
    let (k, ten) := dropZeros 400 k ten
    let digits := (toString k).toList
    let before := (digits.length : Int) + ten
    if -4 < before && before ≤ 16 then positional digits before
    else exponential digits (before - 1)

def text : Binary64 → String
  | .finite negative mantissa exponent =>
    (if negative then "-" else "") ++ String.ofList (magnitudeText mantissa exponent)
  | .infinite negative => if negative then "-inf" else "inf"
  | .nan => "nan"

end ProblemMatcher.Binary64
