import AcceptanceBench.Number.Decimal

/-!
Numbers as a script writes them: whole numbers, among which a flag stands for 0 or 1, and numbers
with a fraction. The written form is kept because reports quote it.
-/

namespace AcceptanceBench

/-- A whole number as written. -/
inductive Whole where
  | number (n : Int)
  | flag (b : Bool)
  deriving Repr, DecidableEq

namespace Whole

/-- What the number counts as. -/
def toInt : Whole → Int
  | .number n => n
  | .flag b => if b then 1 else 0

/-- The number as written. -/
def literal : Whole → String
  | .number n => toString n
  | .flag b => if b then "True" else "False"

instance : Coe Int Whole := ⟨.number⟩

instance (n : Nat) : OfNat Whole n := ⟨.number n⟩

end Whole

/-- A number as written. -/
inductive Numeral where
  | whole (n : Whole)
  | real (x : Binary64)
  deriving Repr, DecidableEq

namespace Numeral

instance (n : Nat) : OfNat Numeral n := ⟨.whole (.number n)⟩

/-- The number as written. -/
def literal : Numeral → String
  | .whole n => n.literal
  | .real x => x.literal

/-- The floating-point number nearest to it. -/
def toBinary64 : Numeral → Binary64
  | .whole n => .ofInt n.toInt
  | .real x => x

/-- Whether the number is a whole one that is too large for a floating-point number. -/
def isTooLarge (n : Numeral) : Bool :=
  match n, n.toBinary64 with
  | .whole _, .infinite _ => true
  | _, _ => false

/-- The exact value of the nearest floating-point number. -/
def value (n : Numeral) : Rat :=
  n.toBinary64.value

/-- The number with `places` decimal places. -/
def fixed (places : Nat) (n : Numeral) : String :=
  n.toBinary64.fixed places

end Numeral

end AcceptanceBench
