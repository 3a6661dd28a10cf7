import AcceptanceBench.Error
import AcceptanceBench.Pattern.Reading
import AcceptanceBench.Pattern.Search

/-!
Comparing observed data with what is expected. An operator compares text with text and bytes with
bytes; expected data of the other kind is brought to the kind of the observed data first.
-/

namespace AcceptanceBench

/-- How observed data is to relate to expected data. -/
inductive Operator where
  | be
  | contain
  | matching
  | startWith
  | endWith
  deriving Repr, DecidableEq

namespace Operator

/-- The name of an operator. -/
def name : Operator → String
  | .be => "be"
  | .contain => "contain"
  | .matching => "match"
  | .startWith => "start with"
  | .endWith => "end with"

/-- The operator that a name or another spelling of it stands for. -/
def ofName? : String → Option Operator
  | "be" | "equal" | "equals" => some .be
  | "contain" | "contains" => some .contain
  | "match" | "matches" => some .matching
  | "start with" | "starts-with" => some .startWith
  | "end with" | "ends-with" => some .endWith
  | _ => none

/-- The operator that is given by its name, which has to be known. -/
def read (given : Argument) : Except Error Operator :=
  match given.text?.bind ofName? with
  | some operator => .ok operator
  | none => .error (.unknownOperator given)

end Operator

/-- The characters of data, in which patterns are looked for; the characters of bytes are those
below 256. -/
def Data.chars : Data → List Char
  | .text s => s.toList
  | .bytes b => b.map fun byte => Char.ofNat byte.toNat

/-- Whether data is a text. -/
def Data.isText : Data → Bool
  | .text _ => true
  | .bytes _ => false

/-- Whether some characters stand, one after another, anywhere in others. -/
def standIn (part : List Char) : List Char → Bool
  | [] => part.isEmpty
  | c :: rest => part.isPrefixOf (c :: rest) || standIn part rest

/-- Whether observed data relates to expected data of the same kind. Lines of a text are matched one
by one where a pattern asks for their start or end. -/
def Operator.holds (operator : Operator) (observed expected : Data) : Except Error Bool :=
  match operator with
  | .be => .ok (observed == expected)
  | .contain => .ok (standIn expected.chars observed.chars)
  | .startWith => .ok (expected.chars.isPrefixOf observed.chars)
  | .endWith => .ok (expected.chars.isSuffixOf observed.chars)
  | .matching =>
    match Pattern.read observed.isText expected.chars with
    | .ok pattern =>
      match pattern.search (observed.chars.map Char.toNat).toArray with
      | .found => .ok true
      | .missing => .ok false
      | .crossed => .error .crossedGroup
    | .error defect => .error (.badPattern defect observed.isText)

/-- Compares observed data with expected data. -/
def Operator.compare (operator : Operator) (observed expected : Data) : Except Error Outcome := do
  let expected := expected.alongside observed
  if ← operator.holds observed expected then return .holds
  return .fails ⟨operator.name, expected, observed, ""⟩

/-- Compares with an operator given by name. -/
def compare (observed expected : Data) (operator : Argument) : Except Error Outcome := do
  (← Operator.read operator).compare observed expected

/-- Demands that a comparison holds. -/
def expect (observed expected : Data) (operator : Argument) : Except Error Unit := do
  match ← compare observed expected operator with
  | .holds => return ()
  | .fails m => .error (.expectation m)

end AcceptanceBench
