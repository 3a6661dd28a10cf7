import AcceptanceBench.Buffer
import AcceptanceBench.Link

/-!
The scheduler polls the links of its subscriptions on one background thread and hands over what has
arrived. It accepts subscriptions only while its thread is alive.
-/

namespace AcceptanceBench

/-- Where a subscription's chunks go: to a buffer, or to a listener that may react. -/
inductive Sink where
  | buffer (index : Nat)
  | listener (index : Nat)
  deriving Repr, DecidableEq

/-- A subscription. -/
structure Subscription where
  id : Nat
  name : String
  link : Link
  sink : Sink
  deriving Repr, DecidableEq

/-- A background thread that was started. -/
inductive Thread where
  | alive
  | ended
  deriving Repr, DecidableEq

/-- A scheduler. `thread` is there from the start until a stop that succeeds. -/
structure Scheduler where
  interval : Numeral
  threadName : String
  subscriptions : List Subscription
  nextId : Nat
  stopRequested : Bool
  thread : Option Thread
  deriving Repr, DecidableEq

namespace Scheduler

/-- The seconds between two rounds without data, where nothing else is given: a hundredth. -/
def defaultInterval : Numeral := .real (.ofQuotient false 1 100)

/-- The thread's name where nothing else is given. -/
def defaultThreadName : String := "hil-io"

/-- The seconds that a stop waits for the thread, where nothing else is given. -/
def joinTimeout : Numeral := .real (.ofQuotient false 5 1)

/-- A scheduler that was never started. -/
def stopped (interval : Numeral) (threadName : String) : Scheduler :=
  { interval, threadName, subscriptions := [], nextId := 1, stopRequested := false, thread := none }

/-- A scheduler that was never started; its poll interval has to be positive. -/
def make (interval : Numeral) (threadName : String) : Except Error Scheduler :=
  if interval.value ≤ 0 then .error (.badInterval interval) else .ok (stopped interval threadName)

/-- The scheduler with the usual interval and name. -/
def usual : Scheduler := stopped defaultInterval defaultThreadName

/-- Whether the thread has been started and not ended. -/
def isRunning (s : Scheduler) : Bool :=
  s.thread == some .alive

/-- The scheduler without the subscription of an id. -/
def remove (id : Nat) (s : Scheduler) : Scheduler :=
  { s with subscriptions := s.subscriptions.filter (·.id != id) }

/-- The name of a subscription; one without a name is named for its endpoint. -/
def subscriptionName (link : Link) (name : String) : String :=
  if name = "" then link.endpoint else name

/-- Adds a subscription under the next id, whether the thread is alive or not. -/
def insert (link : Link) (sink : Sink) (name : String) (s : Scheduler) : Subscription × Scheduler :=
  let added : Subscription := ⟨s.nextId, subscriptionName link name, link, sink⟩
  (added, { s with subscriptions := s.subscriptions ++ [added], nextId := s.nextId + 1 })

/-- Subscribes a link, if the thread is alive. This is two steps, and whoever waits between them for
a round to end inserts into the scheduler as it is then. -/
def subscribe (link : Link) (sink : Sink) (name : String) (s : Scheduler) :
    Except Error (Subscription × Scheduler) :=
  if s.isRunning then .ok (s.insert link sink name)
  else .error (.notRunning (subscriptionName link name) s.threadName)

end Scheduler

end AcceptanceBench
