import AcceptanceBench.Pattern.Expression
import AcceptanceBench.Text.Digit
import AcceptanceBench.Text.Hex
import AcceptanceBench.Text.Name

/-!
The tokens of a written pattern: single characters, and characters after a backslash. An escape may
take further tokens, such as the digits of a code point.
-/

namespace AcceptanceBench.Pattern

/-- What is wrong with a written pattern. -/
inductive Defect where
  | malformed
  | repetitionTooLarge
  /-- The count of rounds has too many digits, so many of them. -/
  | tooManyDigits (digits : Nat)
  | switchesClash
  | looksBackTooFar
  deriving Repr, DecidableEq

/-- A token; `dangling` is a backslash at the end of the pattern. -/
inductive Token where
  | plain (c : Char)
  | escaped (c : Char)
  | dangling
  deriving Repr, DecidableEq

namespace Token

/-- The tokens of a pattern. -/
def ofChars : List Char → List Token
  | [] => []
  | '\\' :: c :: rest => .escaped c :: ofChars rest
  | ['\\'] => [.dangling]
  | c :: rest => .plain c :: ofChars rest

/-- The character of a token without a backslash. -/
def plain? : Token → Option Char
  | .plain c => some c
  | _ => none

/-- Whether the token is an ASCII digit. -/
def isDigit (t : Token) : Bool :=
  t.plain?.any Char.isDigit

/-- Whether the token is a digit below eight. -/
def isOctal (t : Token) : Bool :=
  t.plain?.any fun c => '0' ≤ c && c ≤ '7'

/-- The value of a token as a hexadecimal digit. -/
def hex? (t : Token) : Option Nat :=
  t.plain?.bind Text.Hex.value?

/-- The value of a token as a decimal digit, 0 for any other token. -/
def digit (t : Token) : Nat :=
  (t.plain?.bind fun c => Text.asciiDigitValue? c.toNat).getD 0

/-- The number that digits spell in a base. -/
def number (base : Nat) (digits : List Token) : Nat :=
  digits.foldl (fun total t => total * base + t.digit) 0

/-- Reads exactly `count` hexadecimal digits. -/
def readHex (count : Nat) (rest : List Token) : Except Defect (Nat × List Token) :=
  match (rest.take count).mapM hex? with
  | some digits =>
    if digits.length = count then
      .ok (digits.foldl (fun total d => total * 16 + d) 0, rest.drop count)
    else .error .malformed
  | none => .error .malformed

/-- Reads up to `count` more octal digits after the first one. An octal escape ends at 255. -/
def readOctal (first : Char) (count : Nat) (rest : List Token) :
    Except Defect (Nat × List Token) :=
  let digits := (rest.take count).takeWhile isOctal
  let code := number 8 (.plain first :: digits)
  if code ≤ 255 then .ok (code, rest.drop digits.length) else .error .malformed

/-- The kind of character that an escaped letter names, and whether it is meant to hold. -/
def kind? : Char → Option (Kind × Bool)
  | 'd' => some (.digit, true)
  | 'D' => some (.digit, false)
  | 's' => some (.space, true)
  | 'S' => some (.space, false)
  | 'w' => some (.word, true)
  | 'W' => some (.word, false)
  | _ => none

/-- The place that an escaped letter names outside a set. -/
def place? : Char → Option Place
  | 'A' => some .textStart
  | 'Z' => some .textEnd
  | 'b' => some .boundary
  | 'B' => some .noBoundary
  | _ => none

/-- The characters up to a closing mark, which must be there. -/
def readName? (close : Char) : List Token → Option (List Char × List Token)
  | .plain c :: rest =>
    if c = close then some ([], rest)
    else (readName? close rest).map fun (name, rest) => (c :: name, rest)
  | _ => none

/-- Reads the name of a character between braces. -/
def readNamed : List Token → Except Defect (Nat × List Token)
  | .plain '\x7b' :: rest =>
    match readName? '\x7d' rest with
    | some (name, rest) =>
      match Text.codeOfName? name with
      | some code => .ok (code, rest)
      | none => .error .malformed
    | none => .error .malformed
  | _ => .error .malformed

/-- An escape that stands for one character inside and outside a set: a control character, a code
point, a name, or a character that is neither an ASCII letter nor a digit and stands for itself.
Names and code points beyond two digits are for texts. -/
def readChar (text : Bool) (c : Char) (rest : List Token) : Except Defect (Nat × List Token) :=
  match c with
  | 'a' => .ok (7, rest)
  | 't' => .ok (9, rest)
  | 'n' => .ok (10, rest)
  | 'v' => .ok (11, rest)
  | 'f' => .ok (12, rest)
  | 'r' => .ok (13, rest)
  | 'x' => readHex 2 rest
  | 'u' => if text then readHex 4 rest else .error .malformed
  | 'U' =>
    if text then do
      let (code, rest) ← readHex 8 rest
      if code ≤ 0x10FFFF then .ok (code, rest) else .error .malformed
    else .error .malformed
  | 'N' => if text then readNamed rest else .error .malformed
  | c => if c.isAlphanum then .error .malformed else .ok (c.toNat, rest)

/-- An escape inside a set. -/
def readMember (text : Bool) (c : Char) (rest : List Token) :
    Except Defect (Member × List Token) :=
  match kind? c with
  | some (kind, holds) => .ok (.kind kind holds, rest)
  | none =>
    if c = 'b' then .ok (.char 8, rest)
    else do
      let (code, rest) ←
        if (Token.plain c).isOctal then readOctal c 2 rest else readChar text c rest
      return (.char code, rest)

end Token

end AcceptanceBench.Pattern
