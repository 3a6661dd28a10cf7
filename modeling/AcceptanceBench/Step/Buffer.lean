import AcceptanceBench.Step.Answer
import AcceptanceBench.Wait

/-!
Scripts on a single buffer.
-/

namespace AcceptanceBench

/-- An act on a buffer. A refused act has an argument of a wrong type. -/
inductive BufferAct where
  | append (data : Data)
  | reset
  | snapshot
  | notify
  | refused

/-- A buffer with the log of the waits on it. -/
structure BufferBench where
  buffer : Buffer
  log : List Notice

namespace BufferBench

/-- Carries out an act. -/
def perform (act : BufferAct) (s : BufferBench) : Except Error Reply × BufferBench :=
  match act with
  | .append data => (.ok .nothing, { s with buffer := s.buffer.append data.toBytes })
  | .reset => (.ok .nothing, { s with buffer := s.buffer.reset })
  | .snapshot => (.ok (.data s.buffer.snapshot), s)
  | .notify => (.ok .nothing, { s with buffer := s.buffer.notify })
  | .refused => (.error .wrongType, s)

/-- The surroundings of a wait: nothing happens to the buffer but the events. -/
def surroundings : Surroundings BufferBench BufferAct (Answer BufferBench) where
  buffer := buffer
  settle s := s
  happen act s :=
    let answer := Answer.ofAct perform act s
    (answer, answer.after)
  backlog _ := 0
  settle_lt _ h := absurd rfl h

end BufferBench

/-- A step of a script on a buffer; a wait has a time limit unless it was of a wrong type. -/
inductive BufferStep where
  | act (a : BufferAct)
  | wait (rule : Rule) (timeout : Option Numeral) (events : List (Scheduled BufferAct))

namespace BufferBench

variable [Clock]

/-- Waits on the buffer. The predicate is made before the wait begins. -/
def waitFor (rule : Rule) (timeout : Option Numeral)
    (events : List (Scheduled BufferAct)) (s : BufferBench) : StepAnswer BufferBench :=
  let refuse (e : Error) : StepAnswer BufferBench := ⟨⟨s, .error e, s⟩, some .none⟩
  match Predicate.make rule, timeout with
  | .error e, _ => refuse e
  | .ok _, none => refuse .wrongType
  | .ok predicate, some timeout =>
    let waited := (Wait.mk s.buffer.name timeout predicate).run surroundings events s
    let after := { waited.watch.state with log := waited.watch.state.log ++ waited.notices }
    ⟨⟨s, replyWith .data waited.result, after⟩,
      some ⟨waited.watch.now, waited.watch.seen, waited.watch.happened⟩⟩

/-- Takes a step. -/
def step : BufferStep → BufferBench → StepAnswer BufferBench
  | .act a, s => (Answer.ofAct perform a s).asStep
  | .wait rule timeout events, s => s.waitFor rule timeout events

/-- The answers to a script on a new buffer. -/
def run (name : String) (steps : List BufferStep) : List (StepAnswer BufferBench) :=
  runSteps step steps ⟨.empty name, []⟩

end BufferBench

end AcceptanceBench
