/-!
Classes of characters given by a table. A class is the ascending list of the code points at which
membership changes, so a character belongs to it exactly when an odd number of changes lie at or
below its code point.
-/

namespace AcceptanceBench

/-- A set of code points, written as the ascending code points at which membership changes. -/
structure CharClass where
  changes : Array Nat

namespace CharClass

/-- How many entries between `low` and `high` are at most `code`, found by halving. -/
def rankBetween (changes : Array Nat) (code low high : Nat) : Nat :=
  if h : low < high then
    let middle := (low + high) / 2
    if changes.getD middle 0 ≤ code then rankBetween changes code (middle + 1) high
    else rankBetween changes code low middle
  else low
termination_by high - low

/-- How many changes lie at or below `code`. -/
def rank (k : CharClass) (code : Nat) : Nat :=
  rankBetween k.changes code 0 k.changes.size

/-- Whether the code point belongs to the class. -/
def holds (k : CharClass) (code : Nat) : Bool :=
  k.rank code % 2 == 1

/-- Whether the character belongs to the class. -/
def contains (k : CharClass) (c : Char) : Bool :=
  k.holds c.toNat

end CharClass

end AcceptanceBench
