import AcceptanceBench.Polling

/-!
Starting and stopping the scheduler of a bench. A stop asks the thread to end and waits for it; a
stuck thread stays alive, and the stop fails.
-/

namespace AcceptanceBench.Bench

/-- Starts the thread, which runs until it is idle. A running scheduler is left alone. -/
def start (b : Bench) : Bench :=
  if b.scheduler.isRunning then b
  else
    (b.onScheduler fun s => { s with stopRequested := false, thread := some .alive }).settle

/-- Stops the scheduler and waits for its thread. The subscriptions that are left are dropped even
if the thread does not end. A time limit that is too large to be reported is an error then. -/
def stop (timeout : Numeral) (b : Bench) : Except Error Unit × Bench :=
  match b.scheduler.thread with
  | none => (.ok (), b)
  | some _ =>
    let asked := b.requestStop
    let joined := if b.stuck then asked else asked.settle
    if joined.scheduler.isRunning then
      let e := if timeout.isTooLarge then .numberTooLarge
        else .didNotExit b.scheduler.threadName timeout
      (.error e, joined)
    else (.ok (), joined.onScheduler fun s => { s with thread := none })

/-- Stops the scheduler at the end of a block of work. If an error is under way there, which its
name tells, a stop that fails is only logged. -/
def leave (during : Option String) (b : Bench) : Except Error Unit × Bench :=
  match during, b.stop Scheduler.joinTimeout with
  | some name, (.error e, b) => (.ok (), b.note (.stopFailed e name))
  | _, stopped => stopped

end AcceptanceBench.Bench
