import AcceptanceBench.Number.Binary64

/-!
Numbers in decimal. `fixed` writes a number with a given count of decimal places, `literal` with the
fewest digits that read back as the same number.
-/

namespace AcceptanceBench

/-- A non-negative number with `places` decimal places, a tie going to the even neighbour. -/
def fixedMagnitude (places num den : Nat) : String :=
  let scaled := nearestEven (num * Nat.pow 10 places) den
  let whole := toString (scaled / Nat.pow 10 places)
  if places = 0 then whole
  else
    let fraction := Nat.toDigits 10 (scaled % Nat.pow 10 places)
    whole ++ "." ++ String.ofList (List.replicate (places - fraction.length) '0' ++ fraction)

/-- A number with `places` decimal places; its sign stands even before a rounded zero. -/
def fixed (places : Nat) (x : Rat) : String :=
  (if x < 0 then "-" else "") ++ fixedMagnitude places x.num.natAbs x.den

namespace Binary64

/-- Decimal digits and the power of ten of the last of them. -/
structure Digits where
  digits : Nat
  power : Int
  deriving Repr, DecidableEq

/-- Compares `a * 10 ^ i` with `b * 2 ^ j`, both sides made whole by the same factor. -/
def compareScaled (a : Nat) (i : Int) (b : Nat) (j : Int) : Ordering :=
  let left := a * Nat.pow 10 i.toNat * Nat.pow 2 (-j).toNat
  let right := b * Nat.pow 2 j.toNat * Nat.pow 10 (-i).toNat
  compare left right

/-- The power of ten above the leading digit of `mantissa * 2 ^ exponent`. -/
def leadingPower (mantissa : Nat) (exponent : Int) : Int :=
  let num := mantissa * Nat.pow 2 exponent.toNat
  let den := Nat.pow 2 (-exponent).toNat
  let guess : Int := ((Nat.toDigits 10 num).length : Int) - (Nat.toDigits 10 den).length
  if compareScaled 1 guess mantissa exponent == .gt then guess else guess + 1

/-- Whether `digits * 10 ^ power` reads as `mantissa * 2 ^ exponent`: it lies between the midpoints
to the two neighbours, which count when the mantissa is even. The gap below a power of two is half
as wide. -/
def readsAs (mantissa : Nat) (exponent : Int) (digits : Nat) (power : Int) : Bool :=
  let below :=
    if mantissa = Nat.pow 2 52 ∧ exponent > -1074 then 4 * mantissa - 1 else 4 * mantissa - 2
  let above := 4 * mantissa + 2
  let low := compareScaled digits power below (exponent - 2)
  let high := compareScaled digits power above (exponent - 2)
  let ends := mantissa % 2 = 0
  (low == .gt || (ends && low == .eq)) && (high == .lt || (ends && high == .eq))

/-- The `count` digits nearest to the number, if they read back as it. -/
def digitsOf? (mantissa : Nat) (exponent : Int) (count : Nat) : Option Digits :=
  let power := leadingPower mantissa exponent - count
  let num := mantissa * Nat.pow 2 exponent.toNat * Nat.pow 10 (-power).toNat
  let den := Nat.pow 2 (-exponent).toNat * Nat.pow 10 power.toNat
  let nearest := nearestEven num den
  let other := if nearest = num / den then nearest + 1 else num / den
  if readsAs mantissa exponent nearest power then some ⟨nearest, power⟩
  else if readsAs mantissa exponent other power then some ⟨other, power⟩
  else none

/-- The fewest digits that read back as the number; seventeen always do. -/
def shortest (mantissa : Nat) (exponent : Int) : Digits :=
  ((List.range 17).findSome? fun n => digitsOf? mantissa exponent (n + 1)).getD ⟨0, 0⟩

/-- Digits with a point: positional for numbers from 0.0001 up to 10^16, with an exponent of at
least two digits elsewhere. A whole number ends in `.0`. -/
def placePoint (digits : List Char) (point : Int) : List Char :=
  if -4 < point ∧ point ≤ 16 then
    if point ≤ 0 then '0' :: '.' :: List.replicate (-point).toNat '0' ++ digits
    else if point.toNat < digits.length then
      digits.take point.toNat ++ '.' :: digits.drop point.toNat
    else digits ++ List.replicate (point.toNat - digits.length) '0' ++ ['.', '0']
  else
    let power := point - 1
    let size := Nat.toDigits 10 power.natAbs
    let lead := match digits with
      | c :: d :: rest => c :: '.' :: d :: rest
      | other => other
    lead ++ 'e' :: (if power < 0 then '-' else '+')
      :: (List.replicate (2 - size.length) '0' ++ size)

/-- The number as a literal. -/
def literal : Binary64 → String
  | .infinite negative => if negative then "-inf" else "inf"
  | .finite negative mantissa exponent =>
    let size :=
      if mantissa = 0 then ['0', '.', '0']
      else
        let found := shortest mantissa exponent
        let all := Nat.toDigits 10 found.digits
        let digits := (all.reverse.dropWhile (· == '0')).reverse
        placePoint digits (all.length + found.power)
    (if negative then "-" else "") ++ String.ofList size

/-- The number with `places` decimal places. -/
def fixed (places : Nat) : Binary64 → String
  | .infinite negative => if negative then "-inf" else "inf"
  | .finite negative mantissa exponent =>
    (if negative then "-" else "")
      ++ fixedMagnitude places (mantissa * Nat.pow 2 exponent.toNat) (Nat.pow 2 (-exponent).toNat)

end Binary64

end AcceptanceBench
