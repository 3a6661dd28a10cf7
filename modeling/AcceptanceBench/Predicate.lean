import AcceptanceBench.Check

/-!
Predicates over channel data. A predicate is called again and again on what has been received so
far, and may answer differently each time; `judge` says what a call means to the one who waits.
-/

namespace AcceptanceBench

/-- What a call of a predicate comes to. -/
inductive Verdict where
  | answered (holds : Bool)
  | compared (outcome : Outcome)
  | raised (e : Error)
  deriving Repr, DecidableEq

namespace Verdict

/-- What a call on some data means: nothing is wrong, or a mismatch is to be remembered, or the wait
cannot go on. A mismatch without an operator gives no detail. -/
def judge (data : Data) : Verdict → Except Error (Option Mismatch)
  | .answered true | .compared .holds => .ok none
  | .answered false => .ok (some ⟨"", .text "", data, ""⟩)
  | .compared (.fails m) => .ok (some m)
  | .raised (.expectation m) => .ok (some m)
  | .raised (.fault f) =>
    if f.kind = .assertion then
      .ok (some ⟨"assert", .text "", data, if f.text = "" then f.kind.name else f.text⟩)
    else .error (.fault f)
  | .raised e => .error e

/-- The verdict of a comparison that may itself fail. -/
def ofComparison : Except Error Outcome → Verdict
  | .ok outcome => .compared outcome
  | .error e => .raised e

end Verdict

/-- One way of checking data. -/
inductive Rule where
  /-- Compares with an operator that is looked up when the rule is made. -/
  | operator (given : Argument) (expected : Data)
  /-- Compares with an operator that is looked up at each call. -/
  | compare (given : Argument) (expected : Data)
  /-- Demands a comparison. -/
  | expect (given : Argument) (expected : Data)
  /-- Tells only whether a comparison holds. -/
  | test (given : Argument) (expected : Data)
  /-- Raises an assertion with this text unless a comparison holds. -/
  | assert (given : Argument) (expected : Data) (text : String)
  | constant (holds : Bool)
  | raise (f : Fault)
  /-- Uses one rule after another, and the last one from then on. -/
  | sequence (rules : List Rule)
  deriving Repr, Inhabited

namespace Rule

mutual

/-- Whether the rule can be made: an operator that is looked up beforehand has to exist. -/
def check : Rule → Except Error Unit
  | .operator given _ => do
    let _ ← Operator.read given
    return ()
  | .sequence rules => checkAll rules
  | _ => .ok ()

/-- Whether all of some rules can be made. -/
def checkAll : List Rule → Except Error Unit
  | [] => .ok ()
  | rule :: rest => do
    rule.check
    checkAll rest

end

mutual

/-- A call of the rule, counted from zero. -/
def call (data : Data) : Rule → Nat → Verdict
  | .operator given expected, _ | .compare given expected, _ =>
    .ofComparison (AcceptanceBench.compare data expected given)
  | .expect given expected, _ =>
    match AcceptanceBench.expect data expected given with
    | .ok () => .answered true
    | .error e => .raised e
  | .test given expected, _ =>
    match AcceptanceBench.compare data expected given with
    | .ok outcome => .answered (outcome == .holds)
    | .error e => .raised e
  | .assert given expected text, _ =>
    match AcceptanceBench.compare data expected given with
    | .ok .holds => .answered true
    | .ok (.fails _) => .raised (.fault ⟨.assertion, text⟩)
    | .error e => .raised e
  | .constant holds, _ => .answered holds
  | .raise f, _ => .raised (.fault f)
  | .sequence rules, count => callAmong data rules count

/-- A call of some rules in sequence. Every rule but the last one is called once; the last one
counts its own calls. -/
def callAmong (data : Data) : List Rule → Nat → Verdict
  | [], _ => .raised .emptyList
  | [rule], count => rule.call data count
  | rule :: _ :: _, 0 => rule.call data 0
  | _ :: next :: rest, count + 1 => callAmong data (next :: rest) count

end

end Rule

/-- A predicate: the answer to each call, counted from zero. -/
abbrev Predicate := (call : Nat) → Data → Verdict

/-- The predicate of a rule. -/
def Predicate.ofRule (rule : Rule) : Predicate := fun count data => rule.call data count

/-- The predicate of a rule that can be made. -/
def Predicate.make (rule : Rule) : Except Error Predicate := do
  rule.check
  return .ofRule rule

end AcceptanceBench
