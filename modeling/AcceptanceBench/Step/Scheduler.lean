import AcceptanceBench.Lifecycle
import AcceptanceBench.Step.Device

/-!
Scripts on a scheduler. Subscriptions are kept under keys and go to listeners.
-/

namespace AcceptanceBench

/-- A step of a script on a scheduler. A stop has a time limit unless it was of a wrong type, and so
has a subscription its name. -/
inductive SchedulerStep where
  | device (act : DeviceAct)
  | start
  | stop (timeout : Option Numeral)
  | enter
  | leave (during : Option String)
  | subscribe (key endpoint : String) (name : Option String) (reactions : List Reaction)
  | unsubscribe (key : String)

namespace Bench

/-- Subscribes a new listener to a device, under a key. -/
def listen (key endpoint : String) (name : Option String) (reactions : List Reaction) (b : Bench) :
    Except Error Subscription × Bench :=
  match Link.makePlain endpoint none none b.toRack, name with
  | .error e, _ => (.error e, b)
  | .ok _, none => (.error .wrongType, b)
  | .ok link, some name =>
    match b.scheduler.subscribe link (.listener b.listeners.length) name with
    | .error e => (.error e, b)
    | .ok (subscription, scheduler) =>
      (.ok subscription,
        { b with
          scheduler
          listeners := b.listeners ++ [⟨key, reactions⟩]
          handles := b.handles.set key subscription.id })

/-- Takes a step. -/
def takeStep (step : SchedulerStep) (b : Bench) : Except Error Reply × Bench :=
  match step with
  | .device act =>
    let (reply, b) := b.perform act
    (.ok reply, b)
  | .start => (.ok .nothing, b.start)
  | .stop none => (.error .wrongType, b)
  | .stop (some timeout) =>
    let (result, b) := b.stop timeout
    (done result, b)
  | .enter => (.ok (.flag true), b.start)
  | .leave during =>
    let (result, b) := b.leave during
    (done result, b)
  | .subscribe key endpoint name reactions =>
    let (result, b) := b.listen key endpoint name reactions
    (replyWith (fun s => .subscribed s.id s.name) result, b)
  | .unsubscribe key => (.ok .nothing, b.unsubscribe key)

/-- The answers to a script on a new scheduler. -/
def runScheduler (scheduler : Scheduler) (steps : List SchedulerStep) : List (StepAnswer Bench) :=
  runSteps (fun step b => (Answer.ofAct takeStep step b).asStep) steps (.make [] scheduler)

end Bench

/-- The key of the listener that a delivery went to, if it went to one. -/
def Bench.keyOf? (b : Bench) (d : Delivery) : Option String :=
  match d.subscription.sink with
  | .listener index => (b.listeners[index]?).map (·.key)
  | .buffer _ => none

end AcceptanceBench
