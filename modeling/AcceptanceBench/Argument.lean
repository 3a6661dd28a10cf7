import AcceptanceBench.Number.Numeral
import AcceptanceBench.Text.Quoted

/-!
Arguments whose type nobody checks beforehand. What they cannot stand for is reported with the
argument itself, so that every argument can be written out.
-/

namespace AcceptanceBench

/-- An argument of any type: a number, a text, or nothing. -/
inductive Argument where
  | number (n : Numeral)
  | text (s : String)
  | absent
  deriving Repr, DecidableEq

namespace Argument

instance : Coe String Argument := ⟨.text⟩

/-- The text of an argument that is one. -/
def text? : Argument → Option String
  | .text s => some s
  | _ => none

/-- The argument as a literal, a text in quotes. -/
def literal : Argument → String
  | .number n => n.literal
  | .text s => Text.Quoted.text s
  | .absent => "None"

/-- The argument as part of a sentence, a text without quotes. -/
def plain : Argument → String
  | .text s => s
  | a => a.literal

end Argument

end AcceptanceBench
