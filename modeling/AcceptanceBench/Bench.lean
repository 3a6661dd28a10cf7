import AcceptanceBench.Scheduler

/-!
The bench: devices, the scheduler that polls them, the buffers and listeners that receive what has
arrived, and the history of readings and deliveries. A listener may end subscriptions, feed a
device, stop the scheduler or raise a fault, all while a round of polling goes on.
-/

namespace AcceptanceBench

/-- What a listener does when a chunk is delivered, in this order. -/
structure Reaction where
  unsubscribe : List String
  feed : Option (String × List Bytes)
  stop : Bool
  raise : Option Fault
  deriving Repr, DecidableEq

/-- A listener, known by a key, with its reactions to the deliveries that are still to come. -/
structure Listener where
  key : String
  reactions : List Reaction
  deriving Repr, DecidableEq

/-- A reading of a link on behalf of a subscription, and what it came to. -/
structure Reading where
  subscription : Subscription
  outcome : Except Error Bytes

/-- A chunk that was handed over. -/
structure Delivery where
  subscription : Subscription
  chunk : Bytes
  deriving Repr, DecidableEq

/-- A bench. `handles` are the ids of subscriptions by key. While the thread is `stuck`, a stop does
not see it end. -/
structure Bench extends Rack where
  scheduler : Scheduler
  buffers : List Buffer
  listeners : List Listener
  handles : Table Nat
  readings : List Reading
  deliveries : List Delivery
  stuck : Bool

namespace Bench

/-- A bench without devices. -/
def make (ports : List Port) (scheduler : Scheduler) : Bench :=
  { toRack := .empty ports, scheduler, buffers := [], listeners := [], handles := .empty,
    readings := [], deliveries := [], stuck := false }

/-- The buffer at a place of the bench; a place that was never taken is an empty buffer without a
name. -/
def buffer (b : Bench) (index : Nat) : Buffer :=
  (b.buffers[index]?).getD (.empty "")

/-- The bench with its rack changed. -/
def onRack (change : Rack → Rack) (b : Bench) : Bench :=
  { b with toRack := change b.toRack }

/-- The bench with its scheduler changed. -/
def onScheduler (change : Scheduler → Scheduler) (b : Bench) : Bench :=
  { b with scheduler := change b.scheduler }

/-- The bench with one more entry in the log. -/
def note (n : Notice) (b : Bench) : Bench :=
  b.onRack (·.note n)

/-- The bench after chunks have arrived at a device. -/
def feed (endpoint : String) (chunks : List Bytes) (b : Bench) : Bench :=
  b.onRack (·.alter endpoint (.feed chunks))

/-- Ends the subscription that a key names, if it is still there. -/
def unsubscribe (key : String) (b : Bench) : Bench :=
  match b.handles.get? key with
  | some id => b.onScheduler (·.remove id)
  | none => b

/-- Drops the subscriptions that are left, which a warning reports, and asks the thread to end. -/
def requestStop (b : Bench) : Bench :=
  let names := b.scheduler.subscriptions.map (·.name)
  let b := if names.isEmpty then b
    else b.note (.subscriptionsDropped names b.scheduler.threadName)
  b.onScheduler fun s => { s with subscriptions := [], stopRequested := true }

/-- Stops the scheduler from its own thread, which ends after the round that is going on. -/
def stopFromThread (b : Bench) : Bench :=
  match b.scheduler.thread with
  | none => b
  | some _ => b.requestStop.onScheduler fun s => { s with thread := none }

/-- Carries out a reaction to a delivery; a fault that it raises is reported and swallowed. -/
def react (subscription : Subscription) (r : Reaction) (b : Bench) : Bench :=
  let b := r.unsubscribe.foldl (fun b key => b.unsubscribe key) b
  let b := match r.feed with
    | some (endpoint, chunks) => b.feed endpoint chunks
    | none => b
  let b := if r.stop then b.stopFromThread else b
  match r.raise with
  | some f => b.note (.callbackFailed subscription.name f)
  | none => b

/-- Hands a chunk to where a subscription's chunks go. A listener's reaction to it is still to be
carried out. -/
def hand (subscription : Subscription) (chunk : Bytes) (b : Bench) : Option Reaction × Bench :=
  let b := { b with deliveries := b.deliveries ++ [⟨subscription, chunk⟩] }
  match subscription.sink with
  | .buffer index => (none, { b with buffers := b.buffers.modify index (·.append chunk) })
  | .listener index =>
    match b.listeners[index]? with
    | none => (none, b)
    | some listener =>
      match listener.reactions with
      | [] => (none, b)
      | reaction :: rest =>
        (some reaction,
          { b with listeners := b.listeners.set index { listener with reactions := rest } })

/-- Hands a chunk over and lets a listener react to it. -/
def deliver (subscription : Subscription) (chunk : Bytes) (b : Bench) : Bench :=
  match b.hand subscription chunk with
  | (none, b) => b
  | (some reaction, b) => b.react subscription reaction

/-- Drops a subscription whose link could not be read, which an error reports. -/
def dropFailed (subscription : Subscription) (e : Error) (b : Bench) : Bench :=
  let notice := match e with
    | .fault f =>
      if f.kind.isTransport then .pollFailed subscription.name e
      else .pollCrashed subscription.name f
    | _ => .pollFailed subscription.name e
  (b.note notice).onScheduler (·.remove subscription.id)

/-- Reads a subscription's link once. -/
def fetch (subscription : Subscription) (b : Bench) : Except Error Bytes × Bench :=
  let (outcome, rack) := subscription.link.read b.toRack
  (outcome, { b with toRack := rack, readings := b.readings ++ [⟨subscription, outcome⟩] })

/-- Reads one subscription's link once, and hands over what has arrived. Tells whether anything
has. -/
def serve (subscription : Subscription) (b : Bench) : Bool × Bench :=
  match b.fetch subscription with
  | (.error e, b) => (false, b.dropFailed subscription e)
  | (.ok [], b) => (false, b)
  | (.ok chunk, b) => (true, b.deliver subscription chunk)

/-- Serves subscriptions one after another. Tells whether anything has arrived. -/
def serveAll : List Subscription → Bench → Bool × Bench
  | [], b => (false, b)
  | s :: rest, b =>
    let (first, b) := b.serve s
    let (later, b) := serveAll rest b
    (first || later, b)

/-- One round: every subscription that is there when the round begins is served once. -/
def round (b : Bench) : Bool × Bench :=
  serveAll b.scheduler.subscriptions b

end Bench

end AcceptanceBench
