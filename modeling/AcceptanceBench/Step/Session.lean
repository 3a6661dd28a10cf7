import AcceptanceBench.Session
import AcceptanceBench.Step.Registry

/-!
Scripts on a session.
-/

namespace AcceptanceBench

/-- An act on a session. -/
inductive SessionAct where
  | registry (act : RegistryAct)
  | setUp
  | tearDown
  | enter
  | givenApplication (directory : String) (process : Execution)
  | pause (amount : Session.Amount) (unit : String)
  | openSerial (port : String) (baud : Option Whole)
  | writeSerial (port : String) (data : Data)
  | sendUsb (data : Data) (index : Option Whole) (hostToDevice : Bool) (tool : ToolOutcome)
  | usbReplyShould (operator expected : String)

/-- A check of a channel's output; without a time limit the session's own counts. -/
structure OutputCheck where
  port : String
  operator : String
  expected : String
  timeout : Option Numeral
  deriving Repr, DecidableEq

/-- A step of a script on a session. A check of the output is missing if one of its arguments was of
a wrong type. -/
inductive SessionStep where
  | act (a : SessionAct)
  | wait (rule : Rule) (asked : Option ChannelWait) (events : List (Scheduled SessionAct))
  | outputShould (check : Option OutputCheck) (events : List (Scheduled SessionAct))

namespace Session

/-- Carries out an act. Tearing down is leaving work that has come to no error. -/
def perform (act : SessionAct) (s : Session) : Except Error Reply × Session :=
  match act with
  | .registry act => s.withRegistry (Registry.perform act)
  | .setUp => (.ok .nothing, s.setUp)
  | .tearDown => s.leave (.ok .nothing)
  | .enter => (.ok (.flag true), s.setUp)
  | .givenApplication directory process =>
    let (result, s) := s.givenApplication directory process
    (replyWith .text result, s)
  | .pause amount unit =>
    let (result, s) := s.pause amount unit
    (done result, s)
  | .openSerial port baud =>
    let (result, s) := s.openSerial port baud
    (done result, s)
  | .writeSerial port data =>
    let (result, s) := s.writeSerial port data
    (done result, s)
  | .sendUsb data index hostToDevice tool =>
    let (result, s) := s.sendUsb data index hostToDevice tool
    (replyWith (fun bytes => .data (.bytes bytes)) result, s)
  | .usbReplyShould operator expected => (done (s.usbReplyShould operator expected), s)

variable [Clock]

/-- A wait on a channel of the session. -/
def waitFor (predicate : Except Error Predicate) (asked : Option ChannelWait)
    (events : List (Scheduled SessionAct)) (s : Session) : StepAnswer Session :=
  waitOnChannel registry (fun g s => { s with registry := g }) (fun _ _ => rfl) perform predicate
    asked events s

/-- Takes a step. A check of the output waits for one comparison, whose operator has to exist before
the channel is looked for. -/
def step : SessionStep → Session → StepAnswer Session
  | .act a, s => (Answer.ofAct perform a s).asStep
  | .wait rule asked events, s => s.waitFor (Predicate.make rule) asked events
  | .outputShould none events, s => s.waitFor (.error .wrongType) none events
  | .outputShould (some check) events, s =>
    s.waitFor (Predicate.make (.operator check.operator (.text check.expected)))
      (some ⟨check.port, check.timeout.getD s.checkTimeout⟩) events

/-- The answers to a script on a session. -/
def run (s : Session) (steps : List SessionStep) : List (StepAnswer Session) :=
  runSteps step steps s

end Session

end AcceptanceBench
