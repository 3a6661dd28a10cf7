import AcceptanceBench.SerialPort

/-!
What a step of a script answers: its result, with the state before and after it. A step that waits
also tells how long it waited, what its predicate was called with, and what the events answered that
happened meanwhile.
-/

namespace AcceptanceBench

/-- What a step returns. -/
inductive Reply where
  | nothing
  | flag (b : Bool)
  | count (n : Int)
  | text (s : String)
  | data (d : Data)
  | subscribed (id : Nat) (name : String)
  | opened (channel endpoint buffer : String) (id : Nat) (subscription : String)
  | contents (size : Nat) (d : Data)
  | device (d : Device)
  | port (p : SerialPort)

/-- The answer of a step that took no time. -/
structure Answer (σ : Type) where
  before : σ
  result : Except Error Reply
  after : σ

/-- What a step tells about its wait; a step that failed before it waited tells of none. -/
structure Waiting (σ : Type) where
  elapsed : Rat
  seen : List Data
  events : List (Answer σ)

/-- A wait that never began. -/
def Waiting.none {σ : Type} : Waiting σ := ⟨0, [], []⟩

/-- The answer of a step. -/
structure StepAnswer (σ : Type) extends Answer σ where
  waiting : Option (Waiting σ)

namespace Answer

variable {σ α : Type}

/-- The answer of an act on a state. -/
def ofAct (act : α → σ → Except Error Reply × σ) (a : α) (s : σ) : Answer σ :=
  let (result, after) := act a s
  ⟨s, result, after⟩

/-- The same answer as that of a step. -/
def asStep (a : Answer σ) : StepAnswer σ :=
  { a with waiting := .none }

end Answer

/-- The answers of steps, each on the state that the one before has left. -/
def runSteps {σ α : Type} (step : α → σ → StepAnswer σ) : List α → σ → List (StepAnswer σ)
  | [], _ => []
  | a :: rest, s =>
    let answer := step a s
    answer :: runSteps step rest answer.after

/-- A result with its value replaced. -/
def replyWith {α : Type} (reply : α → Reply) : Except Error α → Except Error Reply
  | .ok a => .ok (reply a)
  | .error e => .error e

/-- A result without a value. -/
def done {α : Type} : Except Error α → Except Error Reply :=
  replyWith fun _ => .nothing

end AcceptanceBench
