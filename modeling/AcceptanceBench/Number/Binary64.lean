/-!
Binary floating-point numbers of 64 bits, held exactly: a sign, a mantissa below 2^53 and a binary
exponent, or an infinity. Rounding is to the nearest number, a tie to the even mantissa.

Not-a-number is left out. No clock is ever past it, and a sleep of that length is over at once, so
as a time limit it has a predicate called over and over, with no end unless a call settles the
matter.
-/

namespace AcceptanceBench

/-- The nearest whole number to a quotient, a tie going to the even one. -/
def nearestEven (num den : Nat) : Nat :=
  let floor := num / den
  let twice := 2 * (num % den)
  if twice < den ∨ (twice = den ∧ floor % 2 = 0) then floor else floor + 1

/-- A number of 64 bits: `± mantissa * 2 ^ exponent`, or an infinity. -/
inductive Binary64 where
  | finite (negative : Bool) (mantissa : Nat) (exponent : Int)
  | infinite (negative : Bool)
  deriving Repr, DecidableEq

namespace Binary64

/-- The quotient `num / (den * 2 ^ exponent)`, rounded. -/
def scaled (num den : Nat) (exponent : Int) : Nat :=
  if 0 ≤ exponent then nearestEven num (den * Nat.pow 2 exponent.toNat)
  else nearestEven (num * Nat.pow 2 (-exponent).toNat) den

/-- The least exponent at which `num / den` has a mantissa below 2^53, and no less than -1074. -/
def exponentFor (num den : Nat) : Int :=
  let guess : Int := (num.log2 : Int) - den.log2 - 52
  let large : Bool :=
    if 0 ≤ guess then decide (den * Nat.pow 2 (guess.toNat + 52) ≤ num)
    else decide (den * Nat.pow 2 52 ≤ num * Nat.pow 2 (-guess).toNat)
  max (if large then guess else guess - 1) (-1074)

/-- The number nearest to `± num / den`. -/
def ofQuotient (negative : Bool) (num den : Nat) : Binary64 :=
  if num = 0 then .finite negative 0 (-1074)
  else
    let exponent := exponentFor num den
    let mantissa := scaled num den exponent
    let (mantissa, exponent) :=
      if mantissa = Nat.pow 2 53 then (Nat.pow 2 52, exponent + 1) else (mantissa, exponent)
    if exponent > 971 then .infinite negative else .finite negative mantissa exponent

/-- The number nearest to `± digits * 10 ^ power`. Powers that no finite number reaches are cut off
before they are computed. -/
def ofDecimal (negative : Bool) (digits : Nat) (power : Int) : Binary64 :=
  let magnitude : Int := (Nat.toDigits 10 digits).length + power
  if digits = 0 then .finite negative 0 (-1074)
  else if magnitude > 310 then .infinite negative
  else if magnitude < -330 then .finite negative 0 (-1074)
  else if 0 ≤ power then ofQuotient negative (digits * Nat.pow 10 power.toNat) 1
  else ofQuotient negative digits (Nat.pow 10 (-power).toNat)

/-- The number nearest to a whole number. -/
def ofInt (n : Int) : Binary64 :=
  ofQuotient (decide (n < 0)) n.natAbs 1

/-- The exact value; an infinity counts as 2^1024, the bound at which rounding leaves the finite
numbers. As a time limit that is far more than threads can sleep. -/
def value : Binary64 → Rat
  | .finite negative mantissa exponent =>
    let size := if 0 ≤ exponent then mkRat (mantissa * Nat.pow 2 exponent.toNat) 1
      else mkRat mantissa (Nat.pow 2 (-exponent).toNat)
    if negative then -size else size
  | .infinite negative =>
    let size := mkRat (Nat.pow 2 1024) 1
    if negative then -size else size

/-- Whether the sign is negative, a zero's sign included. -/
def signed : Binary64 → Bool
  | .finite negative _ _ => negative
  | .infinite negative => negative

/-- Whether the number lies below zero. -/
def isNegative (x : Binary64) : Bool :=
  decide (x.value < 0)

/-- The product, rounded. -/
def mul : Binary64 → Binary64 → Binary64
  | .finite n₁ m₁ e₁, .finite n₂ m₂ e₂ =>
    let exponent := e₁ + e₂
    if 0 ≤ exponent then ofQuotient (n₁ != n₂) (m₁ * m₂ * Nat.pow 2 exponent.toNat) 1
    else ofQuotient (n₁ != n₂) (m₁ * m₂) (Nat.pow 2 (-exponent).toNat)
  | x, y => .infinite (x.signed != y.signed)

/-- The 64 bits: sign, biased exponent, fraction. -/
def bits : Binary64 → Nat
  | .finite negative mantissa exponent =>
    let size := if mantissa < Nat.pow 2 52 then mantissa
      else (exponent + 1075).toNat * Nat.pow 2 52 + (mantissa - Nat.pow 2 52)
    (if negative then Nat.pow 2 63 else 0) + size
  | .infinite negative => (if negative then Nat.pow 2 63 else 0) + 0x7FF * Nat.pow 2 52

end Binary64

end AcceptanceBench
