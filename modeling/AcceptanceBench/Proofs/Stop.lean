import AcceptanceBench.Proofs.Moment

/-!
What a stop comes to. The thread that is asked to end takes no further round, so a stop leaves the
devices as they are; it fails if and only if the thread is alive and stuck, and only then does the
thread go on. A start leaves them as they are where there are no subscriptions yet.
-/

namespace AcceptanceBench.Bench

/-- The bench once its thread was asked to end and, unless it is stuck, has ended. -/
def joined (b : Bench) : Bench :=
  if b.stuck then b.requestStop else b.requestStop.settle

/-- Whether the thread is alive and does not end when it is asked to. -/
def hangs (b : Bench) : Bool :=
  b.scheduler.isRunning && b.stuck

/-- The thread, its name and whether it is stuck are as they were. -/
structure SameThread (b b' : Bench) : Prop where
  thread : b'.scheduler.thread = b.scheduler.thread
  threadName : b'.scheduler.threadName = b.scheduler.threadName
  stuck : b'.stuck = b.stuck

theorem SameThread.trans {b₁ b₂ b₃ : Bench} (h₁ : b₁.SameThread b₂) (h₂ : b₂.SameThread b₃) :
    b₁.SameThread b₃ :=
  ⟨h₂.thread.trans h₁.thread, h₂.threadName.trans h₁.threadName, h₂.stuck.trans h₁.stuck⟩

theorem SameThread.isRunning {b b' : Bench} (same : b.SameThread b') :
    b'.scheduler.isRunning = b.scheduler.isRunning := by
  rw [Scheduler.isRunning, same.thread]
  rfl

theorem SameThread.hangs {b b' : Bench} (same : b.SameThread b') : b'.hangs = b.hangs := by
  rw [Bench.hangs, same.isRunning, same.stuck]
  rfl

theorem sameThread_note_foldl (notices : List Notice) (b : Bench) :
    b.SameThread (notices.foldl (fun b n => b.note n) b) := by
  rw [foldl_note]
  exact ⟨rfl, rfl, rfl⟩

/-- A stop lets go of a thread that does not run any more. -/
theorem stop_eq (timeout : Numeral) (b : Bench) :
    b.stop timeout = if b.scheduler.thread = none then (.ok (), b)
      else if b.joined.scheduler.isRunning then
        (.error (if timeout.isTooLarge then .numberTooLarge
          else .didNotExit b.scheduler.threadName timeout), b.joined)
      else (.ok (), b.joined.onScheduler fun s => { s with thread := none }) := by
  unfold stop joined
  cases b.scheduler.thread with
  | none => rfl
  | some t => rw [if_neg (Option.some_ne_none t)]

theorem requestStop_fields (b : Bench) :
    b.requestStop.devices = b.devices ∧ b.requestStop.listeners = b.listeners
      ∧ b.requestStop.scheduler
        = { b.scheduler with subscriptions := [], stopRequested := true } := by
  unfold requestStop
  dsimp only
  split
  · exact ⟨rfl, rfl, rfl⟩
  · exact ⟨rfl, rfl, rfl⟩

/-- A thread that was asked to stop ends without another round. -/
theorem settle_of_asked {b : Bench} (asked : b.scheduler.stopRequested = true) :
    b.settle = if b.scheduler.isRunning
      then b.onScheduler fun s => { s with thread := some .ended } else b := by
  rw [settle, if_pos asked]
  simp only [Scheduler.isRunning, beq_iff_eq]

/-- The thread is left alive only if it is stuck. -/
theorem joined_spec (b : Bench) :
    b.joined.devices = b.devices ∧ b.joined.scheduler.subscriptions = []
      ∧ b.joined.scheduler.isRunning = b.hangs := by
  obtain ⟨devices, -, scheduler⟩ := requestStop_fields b
  have running : b.requestStop.scheduler.isRunning = b.scheduler.isRunning := by
    rw [scheduler]
    rfl
  have asked : b.requestStop.scheduler.stopRequested = true := by rw [scheduler]
  unfold joined hangs
  cases b.stuck with
  | true =>
    rw [if_pos rfl, Bool.and_true, running, scheduler]
    exact ⟨devices, rfl, rfl⟩
  | false =>
    rw [if_neg Bool.false_ne_true, settle_of_asked asked, running, Bool.and_false]
    cases alive : b.scheduler.isRunning with
    | true => exact ⟨devices, congrArg Scheduler.subscriptions scheduler, rfl⟩
    | false =>
      rw [if_neg Bool.false_ne_true, running, alive, scheduler]
      exact ⟨devices, rfl, rfl⟩

/-- A stop fails if and only if the thread is alive and stuck, and only then does it go on. Whether
it fails or not it drops every subscription, if the scheduler was started, and leaves the devices
alone. -/
theorem stop_spec (timeout : Numeral) (b : Bench) :
    (b.stop timeout).1 = (if b.hangs then
        .error (if timeout.isTooLarge then .numberTooLarge
          else .didNotExit b.scheduler.threadName timeout)
      else .ok ())
      ∧ (b.stop timeout).2.scheduler.isRunning = b.hangs
      ∧ (b.stop timeout).2.devices = b.devices := by
  obtain ⟨devices, -, running⟩ := joined_spec b
  rw [stop_eq, running]
  split
  · next none =>
    have still : b.scheduler.isRunning = false := by rw [Scheduler.isRunning, none]; rfl
    rw [hangs, still]
    exact ⟨rfl, rfl, rfl⟩
  · split
    · next alive => exact ⟨rfl, running, devices⟩
    · next ended => exact ⟨rfl, (Bool.eq_false_iff.mpr ended).symm, devices⟩

theorem leave_none (b : Bench) : b.leave none = b.stop Scheduler.joinTimeout := by
  unfold leave
  rcases b.stop Scheduler.joinTimeout with ⟨e | _, later⟩ <;> rfl

/-- While an error is under way a stop that fails is only logged. -/
theorem leave_of_error (name : String) (b : Bench) : (b.leave (some name)).1 = .ok () := by
  unfold leave
  rcases b.stop Scheduler.joinTimeout with ⟨e | _, later⟩ <;> rfl

theorem leave_fields (during : Option String) (b : Bench) :
    (b.leave during).2.devices = (b.stop Scheduler.joinTimeout).2.devices
      ∧ (b.leave during).2.listeners = (b.stop Scheduler.joinTimeout).2.listeners := by
  unfold leave
  rcases b.stop Scheduler.joinTimeout with ⟨e | _, later⟩ <;> cases during <;> exact ⟨rfl, rfl⟩

/-! ### Starting -/

/-- A thread that serves no subscription finds nothing. -/
theorem settle_of_idle {b : Bench} (idle : b.scheduler.subscriptions = [])
    (going : b.scheduler.stopRequested = false) : b.settle = b := by
  have nothing : b.round = (false, b) := by
    rw [round, idle]
    rfl
  unfold settle
  split
  · rw [if_neg (going ▸ Bool.false_ne_true)]
    split
    · next later found =>
      rw [nothing] at found
      cases found
    · next later found =>
      rw [nothing] at found
      exact (Prod.mk.inj found).2.symm
  · rfl

/-- A scheduler that is started without subscriptions has its thread, and nothing else happens. -/
theorem start_eq_of_idle {b : Bench} (idle : b.scheduler.subscriptions = [])
    (still : b.scheduler.isRunning = false) :
    b.start = b.onScheduler fun s => { s with stopRequested := false, thread := some .alive } := by
  unfold start
  rw [still, if_neg Bool.false_ne_true]
  exact settle_of_idle idle rfl

theorem start_of_idle {b : Bench} (idle : b.scheduler.subscriptions = []) :
    b.start.scheduler.isRunning = true ∧ b.start.devices = b.devices := by
  cases running : b.scheduler.isRunning with
  | true =>
    unfold start
    rw [running, if_pos rfl]
    exact ⟨running, rfl⟩
  | false =>
    rw [start_eq_of_idle idle running]
    exact ⟨rfl, rfl⟩

end AcceptanceBench.Bench
