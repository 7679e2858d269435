/-!
# Binary floating-point numbers of 64 bits

A number is held by its exact value, a signed significand times a power of two, so every operation
here is integer arithmetic. `Binary64.ofDecimal` rounds a decimal to the nearest number, ties to
the even significand; the comparisons are comparisons of exact values.
-/

namespace OperandCleanup

/-- A floating-point number. A finite one is its significand times two to its exponent. The numbers
that `Binary64.ofDecimal` makes have a significand below 2^53 and an exponent from -1074 on, and
either a significand from 2^52 on or the exponent -1074. -/
inductive Binary64 where
  | finite (negative : Bool) (significand : Nat) (exponent : Int)
  | infinite (negative : Bool)
  | nan
deriving DecidableEq, Repr, Inhabited

namespace Binary64

/-- The least exponent, that of the smallest positive number. -/
def leastExponent : Int := -1074

/-- The greatest exponent of a finite number. -/
def greatestExponent : Int := 971

/-- Zero with a sign. -/
def zero (negative : Bool) : Binary64 := .finite negative 0 leastExponent

def isFinite : Binary64 → Bool
  | .finite .. => true
  | .infinite _ => false
  | .nan => false

/-- The integer nearest to a quotient, a tie going to the even neighbour. -/
def roundedQuotient (num den : Nat) : Nat :=
  let quotient := num / den
  let rest := num % den
  if den < 2 * rest ∨ (2 * rest = den ∧ quotient % 2 = 1) then quotient + 1 else quotient

/-- A quotient measured in units of two to the given exponent, as a fraction. -/
def inUnits (num den : Nat) (exponent : Int) : Nat × Nat :=
  if 0 ≤ exponent then (num, den * Nat.pow 2 exponent.toNat)
  else (num * Nat.pow 2 (-exponent).toNat, den)

/-- The exponent at which a positive quotient has a significand of 53 bits, or the least one. -/
def exponentFor (num den : Nat) : Int :=
  let guess : Int := (num.log2 : Int) - (den.log2 : Int) - 52
  let (n, d) := inUnits num den guess
  max leastExponent (if n < Nat.pow 2 52 * d then guess - 1 else guess)

/-- The number nearest to a positive quotient. -/
def ofQuotient (negative : Bool) (num den : Nat) : Binary64 :=
  let exponent := exponentFor num den
  let (n, d) := inUnits num den exponent
  let significand := roundedQuotient n d
  let (significand, exponent) :=
    if significand = Nat.pow 2 53 then (Nat.pow 2 52, exponent + 1) else (significand, exponent)
  if greatestExponent < exponent then .infinite negative else .finite negative significand exponent

/-- The number nearest to a decimal: a coefficient times a power of ten. Decimals far outside the
range are settled by their size alone. -/
def ofDecimal (negative : Bool) (coefficient : Nat) (exponent : Int) : Binary64 :=
  if coefficient = 0 then zero negative
  else
    let magnitude := ((Nat.toDigits 10 coefficient).length : Int) + exponent
    if 310 < magnitude then .infinite negative
    else if magnitude < -330 then zero negative
    else if 0 ≤ exponent then ofQuotient negative (coefficient * Nat.pow 10 exponent.toNat) 1
    else ofQuotient negative coefficient (Nat.pow 10 (-exponent).toNat)

/-- A signed significand in units of two to an exponent that is not above its own. -/
def signedUnits (negative : Bool) (significand : Nat) (exponent unit : Int) : Int :=
  let magnitude : Int := (significand * Nat.pow 2 (exponent - unit).toNat : Nat)
  if negative then -magnitude else magnitude

/-- Whether two numbers have the same value; the two zeros do, and nothing equals a NaN. -/
def equals : Binary64 → Binary64 → Bool
  | .finite n m e, .finite n' m' e' =>
    let unit := min e e'
    signedUnits n m e unit == signedUnits n' m' e' unit
  | .infinite n, .infinite n' => n == n'
  | _, _ => false

/-- Whether a number has the value of an integer. -/
def equalsInt : Binary64 → Int → Bool
  | .finite n m e, k =>
    let unit := min e 0
    signedUnits n m e unit == k * (Nat.pow 2 (-unit).toNat : Nat)
  | _, _ => false

end Binary64

end OperandCleanup
