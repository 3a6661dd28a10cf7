import AcceptanceBench.Text.Blank
import AcceptanceBench.Text.Utf8

/-!
Bytes spelt in hexadecimal, two digits a byte. Spelling uses lower case; reading takes either case.
-/

namespace AcceptanceBench.Text.Hex

/-- The digit of a value below sixteen. -/
def digit (n : Nat) : Char :=
  Char.ofNat (if n < 10 then 48 + n else 87 + n)

/-- The value of a digit. -/
def value? (c : Char) : Option Nat :=
  let n := c.toNat
  if 48 ≤ n ∧ n ≤ 57 then some (n - 48)
  else if 97 ≤ n ∧ n ≤ 102 then some (n - 87)
  else if 65 ≤ n ∧ n ≤ 70 then some (n - 55)
  else none

/-- The digits of some bytes. -/
def digits (bytes : Bytes) : List Char :=
  bytes.flatMap fun b => [digit (b.toNat / 16), digit (b.toNat % 16)]

/-- The spelling of some bytes. -/
def spell (bytes : Bytes) : String :=
  String.ofList (digits bytes)

/-- The last `places` hexadecimal digits of a number. -/
def fixed : (places n : Nat) → List Char
  | 0, _ => []
  | places + 1, n => fixed places (n / 16) ++ [digit (n % 16)]

/-- Reads pairs of digits and nothing else. -/
def read? : List Char → Option Bytes
  | [] => some []
  | a :: b :: rest => do
    let high ← value? a
    let low ← value? b
    let bytes ← read? rest
    return UInt8.ofNat (16 * high + low) :: bytes
  | [_] => none

/-- Reads pairs of digits with ASCII blanks before, between and after the pairs. -/
def readSpaced? : List Char → Option Bytes
  | [] => some []
  | [a] => if isAsciiBlank a then some [] else none
  | a :: b :: rest =>
    if isAsciiBlank a then readSpaced? (b :: rest)
    else do
      let high ← value? a
      let low ← value? b
      let bytes ← readSpaced? rest
      return UInt8.ofNat (16 * high + low) :: bytes

end AcceptanceBench.Text.Hex
