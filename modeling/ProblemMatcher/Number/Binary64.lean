/-!
# Floating point numbers

A number of double precision is a whole multiple of a power of two: `mantissa * 2 ^ exponent`, with
a mantissa below 2 ^ 53 and an exponent from -1074 to 971, and the greatest mantissa that these
bounds allow. `ofDecimal` rounds a decimal number to the nearest one; of two that are equally near,
the one with the even mantissa wins.
-/

namespace ProblemMatcher

inductive Binary64
  | finite (negative : Bool) (mantissa : Nat) (exponent : Int)
  | infinite (negative : Bool)
  | nan
  deriving Repr, DecidableEq

namespace Binary64

def leastExponent : Int := -1074

def greatestExponent : Int := 971

/-- The nearest whole number to a quotient, the even one of two. -/
def roundQuotient (num den : Nat) : Nat :=
  let q := num / den
  let twice := 2 * (num % den)
  if twice < den then q
  else if den < twice then q + 1
  else if q % 2 == 0 then q else q + 1

/-- A quotient divided by a power of two, as a quotient. -/
def unscale (num den : Nat) (exponent : Int) : Nat × Nat :=
  if exponent < 0 then (num * Nat.pow 2 (-exponent).toNat, den)
  else (num, den * Nat.pow 2 exponent.toNat)

/-- The exponent under which a quotient has a mantissa of 53 bits, as far as the bounds allow. -/
def exponentFor (num den : Nat) : Int :=
  let guess : Int := (Nat.log2 num : Int) - Nat.log2 den - 52
  let (n, d) := unscale num den guess
  let exponent := if n / d < Nat.pow 2 52 then guess - 1 else guess
  max exponent leastExponent

/-- The nearest number to a positive quotient. -/
def ofQuotient (negative : Bool) (num den : Nat) : Binary64 :=
  let exponent := exponentFor num den
  let (n, d) := unscale num den exponent
  let mantissa := roundQuotient n d
  let (mantissa, exponent) :=
    if mantissa = Nat.pow 2 53 then (Nat.pow 2 52, exponent + 1) else (mantissa, exponent)
  if greatestExponent < exponent then .infinite negative else .finite negative mantissa exponent

/-- The number nearest to `digits * 10 ^ exponent`. Beyond the bounds below, the result does not
depend on the digits any more. -/
def ofDecimal (negative : Bool) (digits : Nat) (exponent : Int) : Binary64 :=
  let size : Int := (toString digits).length + exponent
  if digits = 0 || size < -330 then .finite negative 0 leastExponent
  else if 310 < size then .infinite negative
  else if exponent < 0 then ofQuotient negative digits (Nat.pow 10 (-exponent).toNat)
  else ofQuotient negative (digits * Nat.pow 10 exponent.toNat) 1

end Binary64

end ProblemMatcher
