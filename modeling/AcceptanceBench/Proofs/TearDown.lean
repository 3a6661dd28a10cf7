import AcceptanceBench.Proofs.Closing
import AcceptanceBench.Proofs.SessionCourse
import AcceptanceBench.Proofs.Stop

/-!
Tearing a session down always completes. Whatever faults the links raise and whether the thread is
stuck or not, every channel is closed once, the USB reply and the subscriptions are gone, and the
error that is seen tells what failed first.
-/

namespace AcceptanceBench.Session

open Registry (closeFailures)

variable {s : Session}

/-- The channels that fail to close when the session is torn down, each with its fault. -/
def failing (s : Session) : List (String × Fault) :=
  closeFailures s.registry.opened s.bench.toRack

/-- Entries in the log touch nothing else. -/
theorem noteAll_spec (notices : List Notice) (s : Session) :
    (s.noteAll notices).bench.devices = s.bench.devices
      ∧ s.bench.SameThread (s.noteAll notices).bench
      ∧ (s.noteAll notices).registry.opened = s.registry.opened
      ∧ (s.noteAll notices).usb = s.usb :=
  ⟨Registry.devices_note_foldl notices s.bench, Bench.sameThread_note_foldl notices s.bench, rfl,
    rfl⟩

/-- A stop touches the scheduler alone. -/
theorem stop_spec (s : Session) :
    let stopped := s.withBench (Bench.stop Scheduler.joinTimeout)
    stopped.1 = (if s.bench.hangs then
        .error (.didNotExit s.bench.scheduler.threadName Scheduler.joinTimeout) else .ok ())
      ∧ stopped.2.bench.devices = s.bench.devices
      ∧ stopped.2.bench.scheduler.isRunning = s.bench.hangs
      ∧ stopped.2.registry.opened = s.registry.opened ∧ stopped.2.usb = s.usb := by
  obtain ⟨outcome, running, devices⟩ := s.bench.stop_spec Scheduler.joinTimeout
  have reported : Scheduler.joinTimeout.isTooLarge = false := by decide
  rw [reported] at outcome
  exact ⟨outcome, devices, running, rfl, rfl⟩

/-- What tearing down comes to where every open channel holds its device. -/
theorem tearDown_spec (held : ∀ c ∈ s.registry.opened, c.link.IsHeld) :
    s.tearDown.1 = (if s.failing ≠ [] then .error (.closing s.registry.opened.length s.failing)
        else if s.bench.hangs then
          .error (.didNotExit s.bench.scheduler.threadName Scheduler.joinTimeout)
        else .ok ())
      ∧ s.tearDown.2.bench.devices = (s.bench.toRack.disconnectAll s.registry.opened).devices
      ∧ s.tearDown.2.bench.scheduler.isRunning = s.bench.hangs
      ∧ s.tearDown.2.registry.opened = [] ∧ s.tearDown.2.usb.reply = none := by
  obtain ⟨outcome, devices, thread⟩ := Registry.closeAll_report held
  have opened : s.shut.registry.opened = [] := s.registry.closes_closeAll.2
  change s.registry.closeAll.1 = if s.failing = [] then _ else _ at outcome
  change s.bench.SameThread s.shut.bench at thread
  rcases s.tearDown_cases with ⟨ok, torn⟩ | ⟨e, notices, error, torn⟩ <;> rw [torn]
  · obtain ⟨result, devices', running, opened', usb⟩ := s.shut.stop_spec
    have none : s.failing = [] := by
      by_contra some
      rw [if_neg some, ok] at outcome
      cases outcome
    rw [thread.hangs] at result running
    rw [thread.threadName] at result
    rw [if_neg (not_not.mpr none), usb]
    exact ⟨result, devices'.trans devices, running, opened'.trans opened, rfl⟩
  · have some : s.failing ≠ [] := by
      intro none
      rw [if_pos none, error] at outcome
      cases outcome
    rw [if_neg some, error] at outcome
    obtain ⟨noted, thread₁, opened₁, usb₁⟩ := s.shut.noteAll_spec [.teardownFailed e]
    obtain ⟨-, stopped, running, opened₂, usb₂⟩ := (s.shut.noteAll [.teardownFailed e]).stop_spec
    obtain ⟨noted', thread₃, opened₃, usb₃⟩ := ((s.shut.noteAll [.teardownFailed e]).withBench
      (Bench.stop Scheduler.joinTimeout)).2.noteAll_spec notices
    refine ⟨?_, ?_, ?_, ?_, ?_⟩
    · rw [if_pos some, Except.error.inj outcome]
      rfl
    · exact noted'.trans (stopped.trans (noted.trans devices))
    · exact thread₃.isRunning.trans (running.trans (thread.trans thread₁).hangs)
    · exact opened₃.trans (opened₂.trans (opened₁.trans opened))
    · exact congrArg (·.reply) (usb₃.trans (usb₂.trans usb₁))

/-- Tearing down leaves no subscription, and closes the device of every open channel once. -/
theorem Reached.tearDown_clears (reached : s.Reached) :
    s.tearDown.2.bench.scheduler.subscriptions = []
      ∧ s.bench.toRack.Counts Rack.never (usersOf · s.registry.opened)
        s.tearDown.2.bench.toRack := by
  have held := reached.scene.balanced.held
  obtain ⟨-, devices, -, opened, -⟩ := tearDown_spec held
  constructor
  · have after := (reached.next (.act .tearDown)).scene
    rw [perform_tearDown] at after
    exact after.idle opened
  · obtain ⟨-, closed, -⟩ := Registry.closeAll_report held
    have counts := (Registry.closeAll_counts held).2
    exact (counts.trans (Rack.alike_of_same (devices.trans closed.symm)).counts).congr
      (fun _ => rfl) fun _ => rfl

/-- Tearing down always completes. Every open channel is closed, its link just once, and the USB
reply and all subscriptions are gone; the scheduler runs on only if its thread is stuck. The error
that is seen reports the channels that failed to close, if there are any, and otherwise the stuck
thread. -/
theorem Reached.tearDown_completes (reached : s.Reached) :
    s.tearDown.2.registry.opened = [] ∧ s.tearDown.2.usb.reply = none
      ∧ s.tearDown.2.bench.scheduler.subscriptions = []
      ∧ s.tearDown.2.bench.devices = (s.bench.toRack.disconnectAll s.registry.opened).devices
      ∧ s.bench.toRack.Counts Rack.never (usersOf · s.registry.opened) s.tearDown.2.bench.toRack
      ∧ s.tearDown.2.bench.scheduler.isRunning = (s.bench.scheduler.isRunning && s.bench.stuck)
      ∧ s.tearDown.1 = if s.failing ≠ [] then
          .error (.closing s.registry.opened.length s.failing)
        else if s.bench.scheduler.isRunning && s.bench.stuck then
          .error (.didNotExit s.bench.scheduler.threadName Scheduler.joinTimeout)
        else .ok () := by
  obtain ⟨result, devices, running, opened, reply⟩ := tearDown_spec reached.scene.balanced.held
  obtain ⟨subscriptions, counts⟩ := reached.tearDown_clears
  exact ⟨opened, reply, subscriptions, devices, counts, running, result⟩

/-- A session on two serial ports that nobody has used. -/
def onTwoPorts : Session where
  featureDirectory := "."
  buildCommand := usualBuildCommand
  bootDelay := usualBootDelay
  checkTimeout := usualCheckTimeout
  registry := .make none (.ofList [("HIL_SERIAL_DEV", "/dev/a"), ("HIL_SERIAL1_DEV", "/dev/b")])
    true (.make [] .usual)
  usb := .make UsbChannel.usualCommand .system
  ran := []
  slept := []

/-- Both channels are open. -/
def inOrder : Session :=
  onTwoPorts.performAll [.enter, .openSerial "Serial" none, .openSerial "Serial1" none]

theorem reached_inOrder : inOrder.Reached :=
  (reached_of_isNew ⟨⟨_, _, _, _, rfl⟩, rfl⟩).performAll _

/-- Of the two channels one fails to close, and the thread is stuck. -/
def inTrouble : Session :=
  inOrder.performAll [.registry (.device (.setFault "/dev/a" .close (some ⟨.runtime, "jammed"⟩))),
    .registry (.device (.stick true))]

theorem reached_inTrouble : inTrouble.Reached :=
  reached_inOrder.performAll _

/-- Both channels are closed, and the failure of one of them is reported, not the stuck thread. -/
theorem tearDown_completes_inTrouble :
    inTrouble.Reached ∧ inTrouble.registry.openNames = ["Serial", "Serial1"]
      ∧ inTrouble.tearDown.1 = .error (.closing 2 [("Serial", ⟨.runtime, "jammed"⟩)])
      ∧ inTrouble.tearDown.2.registry.opened = []
      ∧ inTrouble.tearDown.2.bench.scheduler.isRunning = true := by
  obtain ⟨opened, -, -, -, -, running, result⟩ := reached_inTrouble.tearDown_completes
  have failing : inTrouble.failing = [("Serial", ⟨.runtime, "jammed"⟩)] := by decide +kernel
  refine ⟨reached_inTrouble, by decide +kernel, ?_, opened, running.trans (by decide +kernel)⟩
  rw [result, failing]
  exact congrArg (fun n => Except.error (Error.closing n _)) (by decide +kernel)

/-! ### Leaving a block of work -/

/-- Whatever error the work has ended with, the session is torn down in full. That error is the one
that is seen if, and only if, no channel fails to close and the thread is not stuck. -/
theorem Reached.leave_seen_iff (reached : s.Reached) (α : Type) :
    (∀ result : Except Error α, (s.leave result).2.registry.opened = []
        ∧ (s.leave result).2.usb.reply = none
        ∧ (s.leave result).2.bench.scheduler.subscriptions = []
        ∧ s.bench.toRack.Counts Rack.never (usersOf · s.registry.opened)
          (s.leave result).2.bench.toRack)
      ∧ ((∀ e : Error, (s.leave (.error e : Except Error α)).1 = .error e)
        ↔ s.failing = [] ∧ (s.bench.scheduler.isRunning && s.bench.stuck) = false) := by
  obtain ⟨torn, -, -, opened, reply⟩ := tearDown_spec reached.scene.balanced.held
  obtain ⟨subscriptions, counts⟩ := reached.tearDown_clears
  change s.tearDown.1 = if _ then _ else if s.bench.scheduler.isRunning && s.bench.stuck then _
    else _ at torn
  refine ⟨fun result => ?_, fun seen => ?_, fun ⟨closes, ends⟩ e => ?_⟩
  · rw [(leave_after result s).1]
    exact ⟨opened, reply, subscriptions, counts⟩
  · -- An error that tearing down never raises is replaced unless there is none.
    have own := seen .wrongType
    rw [(leave_after _ s).2, torn] at own
    by_cases closes : s.failing = []
    · refine ⟨closes, Bool.eq_false_iff.mpr fun hangs => ?_⟩
      rw [if_neg (not_not.mpr closes), if_pos hangs] at own
      cases own
    · rw [if_pos closes] at own
      cases own
  · rw [(leave_after _ s).2, torn, if_neg (not_not.mpr closes), ends]
    rfl

/-- An error of the work is seen where all channels close and the thread ends. -/
theorem leave_seen_inOrder : inOrder.Reached
    ∧ ∀ e : Error, (inOrder.leave (.error e : Except Error Unit)).1 = .error e :=
  ⟨reached_inOrder, (reached_inOrder.leave_seen_iff Unit).2.mpr (by decide +kernel)⟩

/-- The work's error is not always seen: a channel that fails to close takes its place. -/
theorem not_seen_inTrouble : ¬ ∀ (s : Session) (e : Error), s.Reached →
    (s.leave (.error e : Except Error Unit)).1 = .error e := by
  intro seen
  have failing : inTrouble.failing ≠ [] := by decide +kernel
  obtain ⟨torn, -⟩ := tearDown_spec reached_inTrouble.scene.balanced.held
  have own := seen inTrouble .wrongType reached_inTrouble
  rw [(leave_after _ inTrouble).2, torn, if_pos failing] at own
  cases own

end AcceptanceBench.Session
