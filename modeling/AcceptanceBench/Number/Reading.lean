import AcceptanceBench.Number.Binary64
import AcceptanceBench.Text.Blank
import AcceptanceBench.Text.Digit

/-!
Reading numbers from text. Blanks around a number are dropped, the decimal digits of every script
count, and single underscores may stand between digits.
-/

namespace AcceptanceBench.Reading

/-- An ASCII digit for a decimal digit of any script; other characters stay. -/
def plainDigit (c : Char) : Char :=
  match Text.digitValue? c.toNat with
  | some value => Char.ofNat (48 + value)
  | none => c

/-- A number's characters without the blanks around them, with ASCII digits. -/
def plain (s : String) : List Char :=
  (Text.dropAround Text.isNumberBlank s.toList).map plainDigit

/-- A sign and what follows it. -/
def sign : List Char → Bool × List Char
  | '-' :: rest => (true, rest)
  | '+' :: rest => (false, rest)
  | other => (false, other)

/-- The value of ASCII digits. -/
def digitsValue (cs : List Char) : Nat :=
  cs.foldl (fun total c => total * 10 + (c.toNat - 48)) 0

/-- Whether every underscore stands between two digits. `digitBefore` tells what stands before the
characters. -/
def underscoresFit (digitBefore : Bool) : List Char → Bool
  | [] => true
  | ['_'] => false
  | '_' :: next :: rest => digitBefore && next.isDigit && underscoresFit true rest
  | c :: rest => underscoresFit c.isDigit rest

/-- The characters without underscores, if every one stands between two digits. -/
def dropUnderscores? (cs : List Char) : Option (List Char) :=
  if underscoresFit false cs then some (cs.filter (· != '_')) else none

/-- The greatest count of digits that is read as a whole number. -/
def digitLimit : Nat := 4300

/-- Reads a whole number. -/
def int? (s : String) : Option Int := do
  let (negative, body) := sign (plain s)
  let digits ← dropUnderscores? body
  if digits.isEmpty || !digits.all Char.isDigit || digits.length > digitLimit then none
  else if negative then some (-(digitsValue digits : Int))
  else some (digitsValue digits)

/-- Reads the exponent part of a number, if there is one: `e`, a sign and digits. -/
def exponent? : List Char → Option Int
  | [] => some 0
  | c :: rest =>
    if c = 'e' ∨ c = 'E' then
      let (negative, digits) := sign rest
      if digits.isEmpty || !digits.all Char.isDigit then none
      else if negative then some (-(digitsValue digits : Int))
      else some (digitsValue digits)
    else none

/-- Reads a number with an optional fraction and exponent, or the word for infinity. The word for
not-a-number is not read. -/
def real? (s : String) : Option Binary64 := do
  let cs ← dropUnderscores? (plain s)
  let (negative, body) := sign cs
  let word := String.ofList (body.map Char.toLower)
  if word = "inf" ∨ word = "infinity" then some (.infinite negative)
  else
    let whole := body.takeWhile Char.isDigit
    let (fraction, tail) := match body.dropWhile Char.isDigit with
      | '.' :: rest => (rest.takeWhile Char.isDigit, rest.dropWhile Char.isDigit)
      | other => ([], other)
    if whole.isEmpty && fraction.isEmpty then none
    else do
      let power ← exponent? tail
      some (.ofDecimal negative (digitsValue (whole ++ fraction)) (power - fraction.length))

end AcceptanceBench.Reading
