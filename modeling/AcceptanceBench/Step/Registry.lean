import AcceptanceBench.Registry
import AcceptanceBench.Step.Device

/-!
Scripts on the channels of a bench.
-/

namespace AcceptanceBench

/-- An act on the channels of a bench. A refused act has an argument of a wrong type. -/
inductive RegistryAct where
  | device (act : DeviceAct)
  | start
  | stop (timeout : Numeral)
  | openChannel (name : String) (baud bits : Whole)
  | close (name : String)
  | closeAll
  | write (name : String) (data : Data)
  | resetData (name : String)
  | isOpen (name : String)
  | contents (name : String)
  | refused

/-- What a wait on a channel is asked for, apart from its predicate. -/
structure ChannelWait where
  name : String
  timeout : Numeral
  deriving Repr, DecidableEq

namespace Registry

/-- Carries out an act. -/
def perform (act : RegistryAct) (g : Registry) : Except Error Reply × Registry :=
  match act with
  | .device act =>
    let (reply, bench) := g.bench.perform act
    (.ok reply, { g with bench })
  | .start => (.ok .nothing, g.onBench Bench.start)
  | .stop timeout =>
    let (result, bench) := g.bench.stop timeout
    (done result, { g with bench })
  | .openChannel name baud bits =>
    let (result, g) := g.openChannel name baud bits
    (replyWith (fun c => .opened c.name c.link.endpoint (g.bench.buffer c.buffer).name
      c.subscription.id c.subscription.name) result, g)
  | .close name =>
    let (result, g) := g.close name
    (done result, g)
  | .closeAll =>
    let (result, g) := g.closeAll
    (done result, g)
  | .write name data =>
    let (result, g) := g.write name data
    (replyWith .count result, g)
  | .resetData name =>
    let (result, g) := g.resetData name
    (done result, g)
  | .isOpen name => (.ok (.flag (g.isOpen name)), g)
  | .contents name =>
    let buffer := ((g.latest.get? name).map g.bench.buffer).getD (.empty name)
    (.ok (.contents buffer.data.length buffer.snapshot), g)
  | .refused => (.error .wrongType, g)

end Registry

variable [Clock]

/-- A wait on a channel, in a state that a registry is part of. The predicate is made first; then
the arguments have to be of the right types, and the channel has to be open. -/
def waitOnChannel {σ ε : Type} (registry : σ → Registry) (put : Registry → σ → σ)
    (registry_put : ∀ g s, registry (put g s) = g) (perform : ε → σ → Except Error Reply × σ)
    (predicate : Except Error Predicate) (asked : Option ChannelWait) (events : List (Scheduled ε))
    (s : σ) : StepAnswer σ :=
  let refuse (e : Error) : StepAnswer σ := ⟨⟨s, .error e, s⟩, some .none⟩
  match predicate, asked with
  | .error e, _ => refuse e
  | .ok _, none => refuse .wrongType
  | .ok predicate, some asked =>
    match (registry s).active asked.name with
    | .error e => refuse e
    | .ok c =>
      let putBench (b : Bench) (s : σ) : σ := put { registry s with bench := b } s
      let around : Surroundings σ ε (Answer σ) := .ofBench (fun s => (registry s).bench) putBench
        (fun b s => by simp [putBench, registry_put]) c.buffer
        (fun act s => let answer := Answer.ofAct perform act s; (answer, answer.after))
      let wait : Wait := ⟨((registry s).bench.buffer c.buffer).name, asked.timeout, predicate⟩
      let waited := wait.run around events s
      let ended := waited.watch.state
      let bench := waited.notices.foldl (fun b n => b.note n) (registry ended).bench
      ⟨⟨s, replyWith .data waited.result, putBench bench ended⟩,
        some ⟨waited.watch.now, waited.watch.seen, waited.watch.happened⟩⟩

/-- A step of a script on channels. -/
inductive RegistryStep where
  | act (a : RegistryAct)
  | wait (rule : Rule) (asked : Option ChannelWait) (events : List (Scheduled RegistryAct))

namespace Registry

/-- A wait on a channel where the registry is the whole state. -/
def waitFor {ε : Type} (perform : ε → Registry → Except Error Reply × Registry)
    (predicate : Except Error Predicate) (asked : Option ChannelWait) (events : List (Scheduled ε))
    (g : Registry) : StepAnswer Registry :=
  waitOnChannel id (fun g _ => g) (fun _ _ => rfl) perform predicate asked events g

/-- Takes a step. -/
def step : RegistryStep → Registry → StepAnswer Registry
  | .act a, g => (Answer.ofAct perform a g).asStep
  | .wait rule asked events, g => g.waitFor perform (Predicate.make rule) asked events

/-- The answers to a script on new channels over a scheduler that may have been started. -/
def run (channels : Option Channels) (environ : Table String) (serial started : Bool)
    (steps : List RegistryStep) : List (StepAnswer Registry) :=
  let bench : Bench := .make [] .usual
  runSteps step steps (.make channels environ serial (if started then bench.start else bench))

end Registry

end AcceptanceBench
