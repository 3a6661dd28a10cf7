import AcceptanceBench.Pattern.Expression
import AcceptanceBench.Text.Blank
import AcceptanceBench.Text.Digit
import AcceptanceBench.Text.LetterCase
import AcceptanceBench.Text.Word

/-!
Single characters against a pattern: kinds of characters, and comparison with or without regard to
case. Case is compared through the lower case; what else shares a case with it counts as the same.
-/

namespace AcceptanceBench.Pattern

/-- What counts as a letter, and which letters are cases of each other. -/
inductive Letters where
  | ascii
  | locale
  | unicode
  deriving Repr, DecidableEq

/-- The choice that the switches make. -/
def Letters.of (switches : Switches) : Letters :=
  if switches.contains .locale then .locale
  else if switches.contains .unicode then .unicode
  else .ascii

/-- Whether the code point is a capital of ASCII. -/
def isAsciiUpper (code : Nat) : Bool :=
  65 ≤ code && code ≤ 90

/-- Whether the code point is a small letter of ASCII. -/
def isAsciiLower (code : Nat) : Bool :=
  97 ≤ code && code ≤ 122

/-- The small letter of an ASCII capital. -/
def asciiLower (code : Nat) : Nat :=
  if isAsciiUpper code then code + 32 else code

/-- The capital of a small ASCII letter. -/
def asciiUpper (code : Nat) : Nat :=
  if isAsciiLower code then code - 32 else code

namespace Letters

/-- Whether a character has another case. -/
def isCased : Letters → Nat → Bool
  | .unicode, code => Text.isCased code
  | _, code => isAsciiUpper code || isAsciiLower code

/-- Whether some character from `low` to `high` has another case. -/
def anyCased (letters : Letters) (low high : Nat) : Bool :=
  match letters with
  | .unicode => Text.anyCased low high
  | _ => (low ≤ 90 && 65 ≤ high) || (low ≤ 122 && 97 ≤ high)

/-- The lower case by which characters are compared. -/
def lower : Letters → Nat → Nat
  | .unicode, code => Text.lowerCode code
  | _, code => asciiLower code

/-- The lower cases that count as the same as this one, itself among them. -/
def alike : Letters → Nat → List Nat
  | .unicode, code => code :: Text.caseSiblings code
  | _, code => [code]

/-- The code points that have this lower case. -/
def origins : Letters → Nat → List Nat
  | .unicode, code => Text.lowerOrigins code
  | _, code =>
    (if isAsciiLower code then [code - 32] else []) ++ (if isAsciiUpper code then [] else [code])

/-- Whether a character is a word character. -/
def isWord : Letters → Nat → Bool
  | .unicode, code => Text.alphanumeric.holds code || code == 95
  | _, code => isAsciiUpper code || isAsciiLower code || (48 ≤ code && code ≤ 57) || code == 95

/-- Whether a character is of a kind. Spaces and digits are those of ASCII unless every script
counts. -/
def isOfKind (letters : Letters) (kind : Kind) (code : Nat) : Bool :=
  match kind, letters with
  | .word, _ => letters.isWord code
  | .digit, .unicode => (Text.digitValue? code).isSome
  | .digit, _ => (Text.asciiDigitValue? code).isSome
  | .space, .unicode => Text.isBlank (Char.ofNat code)
  | .space, _ => Text.isAsciiBlank (Char.ofNat code)

end Letters

/-- The last code point whose case a set compares through the lower case of its members. -/
def foldedLimit : Nat := 0xFFFF

namespace Member

/-- Whether a member of a set holds for a character as it stands. -/
def holds (letters : Letters) (code : Nat) : Member → Bool
  | .char c => code == c
  | .range low high => low ≤ code && code ≤ high
  | .kind k expected => letters.isOfKind k code == expected

/-- Whether case matters for a member. -/
def isCased (letters : Letters) : Member → Bool
  | .char c => letters.isCased c || c > foldedLimit
  | .range low high => letters.anyCased low high || high > foldedLimit
  | .kind _ _ => false

/-- Whether a member holds for the lower case of a character. Members within the limit are taken by
their lower cases and those alike; a range beyond it is tried with the upper case too. -/
def holdsFolded (letters : Letters) (code : Nat) : Member → Bool
  | .char c =>
    if c > foldedLimit then code == c else (letters.alike (letters.lower c)).contains code
  | .range low high =>
    (letters.alike code).any (fun same => (letters.origins same).any fun c =>
        low ≤ c && c ≤ high && c ≤ foldedLimit)
      || (high > foldedLimit && ((low ≤ code && code ≤ high)
        || (low ≤ Text.upperCode code && Text.upperCode code ≤ high)))
  | .kind k expected => letters.isOfKind k code == expected

end Member

/-- Whether a character is the one that a pattern names. -/
def isSameChar (letters : Letters) (ignoreCase : Bool) (expected code : Nat) : Bool :=
  if !ignoreCase || !letters.isCased expected then code == expected
  else (letters.alike (letters.lower expected)).contains (letters.lower code)

/-- Whether a character is in a set; `positive` is false for a set of what is excluded. Without
regard to case, a character of a locale is in a set if either of its cases is. -/
def isInSet (letters : Letters) (ignoreCase positive : Bool) (members : List Member) (code : Nat) :
    Bool :=
  let plain (code : Nat) : Bool := members.any (·.holds letters code) == positive
  if !ignoreCase then plain code
  else
    match letters with
    | .locale => plain (asciiLower code) || plain (asciiUpper code)
    | _ =>
      if members.any (·.isCased letters) then
        members.any (·.holdsFolded letters (letters.lower code)) == positive
      else plain code

/-! ### Tests of one character -/

/-- What is known of a test without trying it: it stands for one character and no other, it looks a
character up in a set as it stands or in another of its cases, or nothing. -/
inductive TestForm where
  | exactly (code : Nat)
  | inSet
  | inFoldedSet
  | other
  deriving Repr, DecidableEq

/-- A test of one character. -/
structure CharTest where
  form : TestForm
  holds : Nat → Bool

namespace CharTest

/-- The test for one character. A character with more than two cases is looked up among them. -/
def ofChar (letters : Letters) (ignoreCase positive : Bool) (code : Nat) : CharTest where
  form :=
    if ignoreCase && letters == .locale then .other
    else if !ignoreCase || !letters.isCased code then if positive then .exactly code else .other
    else if letters.alike (letters.lower code) == [letters.lower code] then .other
    else .inFoldedSet
  holds c := isSameChar letters ignoreCase code c == positive

/-- The test for a set. -/
def ofSet (letters : Letters) (ignoreCase positive : Bool) (members : List Member) : CharTest where
  form :=
    if ignoreCase && (letters == .locale || members.any (·.isCased letters)) then .inFoldedSet
    else .inSet
  holds := isInSet letters ignoreCase positive members

/-- The test that a pattern for one character amounts to. -/
def ofExpression? (on : Switches) : Expression → Option CharTest
  | .char code => some (ofChar (.of on) (on.contains .ignoreCase) true code)
  | .otherChar code => some (ofChar (.of on) (on.contains .ignoreCase) false code)
  | .any => some ⟨.other, fun c => on.contains .dotAll || c != 10⟩
  | .set positive members => some (ofSet (.of on) (on.contains .ignoreCase) positive members)
  | _ => none

/-- The test of a pattern for one character, which may have switches of its own. -/
def ofUnit? (on : Switches) : Expression → Option CharTest
  | .part add drop body => ofUnit? (Switch.adjust on add drop) body
  | e => ofExpression? on e

end CharTest

end AcceptanceBench.Pattern
