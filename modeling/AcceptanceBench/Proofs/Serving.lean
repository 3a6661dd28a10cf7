import AcceptanceBench.Proofs.Stop

/-!
Whether a scheduler that was started serves. From a start to the next stop its thread is alive, no
stop is requested, and every subscription is read the next time that the thread runs, unless a stop
was pending when the start was made: a start leaves a thread alone that runs, and does not take back
the request to end. Only a stop that has failed leaves one pending.
-/

namespace AcceptanceBench

namespace Bench

/-- The thread runs, and was asked to end. -/
def Pending (b : Bench) : Prop :=
  b.scheduler.isRunning = true ∧ b.scheduler.stopRequested = true

/-- The thread is alive, and nobody has asked it to end. -/
structure Serving (b : Bench) : Prop where
  alive : b.scheduler.thread = some .alive
  going : b.scheduler.stopRequested = false

/-- The bench at the moment when a start returns, before the thread has run. -/
def begun (b : Bench) : Bench :=
  if b.scheduler.isRunning then b
  else b.onScheduler fun s => { s with stopRequested := false, thread := some .alive }

variable {b b' : Bench}

theorem Serving.of_same (serving : b.Serving) (thread : b'.scheduler.thread = b.scheduler.thread)
    (asked : b'.scheduler.stopRequested = b.scheduler.stopRequested) : b'.Serving :=
  ⟨thread.trans serving.alive, asked.trans serving.going⟩

theorem not_pending_of_same (free : ¬ b.Pending) (thread : b'.scheduler.thread = b.scheduler.thread)
    (asked : b'.scheduler.stopRequested = b.scheduler.stopRequested) : ¬ b'.Pending := by
  rintro ⟨running, pending⟩
  rw [Scheduler.isRunning, thread] at running
  rw [asked] at pending
  exact free ⟨running, pending⟩

theorem not_pending_of_ended (ended : b.scheduler.thread ≠ some .alive) : ¬ b.Pending := by
  rintro ⟨running, -⟩
  exact ended (eq_of_beq running)

theorem serving_begun_iff (b : Bench) : b.begun.Serving ↔ ¬ b.Pending := by
  unfold begun
  constructor
  · rintro serving ⟨running, asked⟩
    rw [if_pos running] at serving
    exact absurd asked (serving.going ▸ Bool.false_ne_true)
  · intro free
    cases running : b.scheduler.isRunning with
    | true =>
      rw [if_pos rfl]
      exact ⟨eq_of_beq running, Bool.eq_false_iff.mpr fun asked => free ⟨running, asked⟩⟩
    | false =>
      rw [if_neg Bool.false_ne_true]
      exact ⟨rfl, rfl⟩

/-! ### Subscribing -/

theorem subscribe_accepted {scheduler later : Scheduler} {link : Link} {sink : Sink} {name : String}
    {added : Subscription} (accepted : scheduler.subscribe link sink name = .ok (added, later)) :
    later = { scheduler with
      subscriptions := scheduler.subscriptions ++ [added], nextId := scheduler.nextId + 1 } := by
  unfold Scheduler.subscribe at accepted
  cases running : scheduler.isRunning with
  | false =>
    rw [running] at accepted
    cases accepted
  | true =>
    rw [running] at accepted
    cases accepted
    rfl

/-- A listener is taken on by subscribing a link for it. -/
theorem subscribe_of_listen {key endpoint : String} {name : Option String}
    {reactions : List Reaction} {s : Subscription}
    (accepted : b.listen key endpoint name reactions = (.ok s, b')) :
    ∃ link sink name, b.scheduler.subscribe link sink name = .ok (s, b'.scheduler) := by
  unfold listen at accepted
  split at accepted
  · cases accepted
  · cases accepted
  · split at accepted
    · cases accepted
    · next added =>
      cases accepted
      exact ⟨_, _, _, added⟩

/-- A subscription that is accepted is added to the others, and all else of the scheduler but the
next id is as before. -/
theorem listen_accepted {key endpoint : String} {name : Option String} {reactions : List Reaction}
    {s : Subscription} (accepted : b.listen key endpoint name reactions = (.ok s, b')) :
    b'.scheduler = { b.scheduler with
      subscriptions := b.scheduler.subscriptions ++ [s], nextId := b.scheduler.nextId + 1 } := by
  obtain ⟨link, sink, name, added⟩ := subscribe_of_listen accepted
  exact subscribe_accepted added

theorem listen_refused {key endpoint : String} {name : Option String} {reactions : List Reaction}
    {e : Error} (refused : b.listen key endpoint name reactions = (.error e, b')) : b' = b := by
  unfold listen at refused
  split at refused
  · cases refused
    rfl
  · cases refused
    rfl
  · split at refused
    · cases refused
      rfl
    · cases refused

theorem listen_flags (b : Bench) (key endpoint : String) (name : Option String)
    (reactions : List Reaction) :
    (b.listen key endpoint name reactions).2.scheduler.thread = b.scheduler.thread
      ∧ (b.listen key endpoint name reactions).2.scheduler.stopRequested
        = b.scheduler.stopRequested := by
  rcases asked : b.listen key endpoint name reactions with ⟨e | s, later⟩
  · obtain rfl := listen_refused asked
    exact ⟨rfl, rfl⟩
  · rw [listen_accepted asked]
    exact ⟨rfl, rfl⟩

theorem perform_flags (b : Bench) {act : DeviceAct} (still : act ≠ .pump) :
    (b.perform act).2.scheduler = b.scheduler := by
  cases act with
  | pump => exact absurd rfl still
  | _ => rfl

end Bench

namespace Moment

open Relation (ReflTransGen)
open Bench

variable {m m' : Moment}

/-! ### The thread until the next stop -/

/-- What a stop does: a listener calls it, it asks the thread to end from outside, or it lets go of
the thread. -/
inductive Halts : Moment → Moment → Prop
  | fromThread {b : Bench} {rest : List Subscription} : Halts ⟨b, rest⟩ ⟨b.stopFromThread, rest⟩
  | request {b : Bench} : Halts ⟨b, []⟩ ⟨b.requestStop, []⟩
  | release {b : Bench} : Halts ⟨b, []⟩ ⟨b.onScheduler fun s => { s with thread := none }, []⟩

/-- From one moment to another without a stop. -/
abbrev Onward : Moment → Moment → Prop := ReflTransGen fun m m' => Next m m' ∧ ¬ Halts m m'

/-- A turn leaves the thread and the request to end as they are, unless the thread is not alive
after it: a listener has stopped it, or it was asked to end before. -/
theorem Turn.flags (turn : Turn m m') :
    (m'.bench.scheduler.thread = m.bench.scheduler.thread
        ∧ m'.bench.scheduler.stopRequested = m.bench.scheduler.stopRequested)
      ∨ (m'.bench.scheduler.thread ≠ some .alive
        ∧ (Halts m m' ∨ m.bench.scheduler.stopRequested = true)) := by
  cases turn with
  | beginRound alive going => exact Or.inl ⟨rfl, rfl⟩
  | fail fetched =>
    obtain ⟨-, -, same, -⟩ := fetch_fields fetched
    refine Or.inl ?_
    rw [← same]
    exact ⟨rfl, rfl⟩
  | pass fetched =>
    obtain ⟨-, -, same, -⟩ := fetch_fields fetched
    refine Or.inl ?_
    rw [← same]
    exact ⟨rfl, rfl⟩
  | @hand b later s rest c cs fetched =>
    obtain ⟨-, -, same, -⟩ := fetch_fields fetched
    obtain ⟨-, handed, -⟩ := hand_fields later s (c :: cs)
    refine Or.inl ?_
    rw [← same, ← handed]
    exact ⟨rfl, rfl⟩
  | unsubscribe key =>
    unfold Bench.unsubscribe
    split
    · exact Or.inl ⟨rfl, rfl⟩
    · exact Or.inl ⟨rfl, rfl⟩
  | feed endpoint chunks => exact Or.inl ⟨rfl, rfl⟩
  | @stop b rest =>
    refine Or.inr ⟨?_, Or.inl .fromThread⟩
    unfold stopFromThread
    split
    · next none => simp [none]
    · simp [onScheduler]
  | complain n => exact Or.inl ⟨rfl, rfl⟩
  | finish alive asked => exact Or.inr ⟨by simp [onScheduler], Or.inr asked⟩

/-- Only a stop ends the service. -/
theorem Next.serving (next : Next m m') (goesOn : ¬ Halts m m') (serving : m.bench.Serving) :
    m'.bench.Serving := by
  cases next with
  | listen key endpoint name reactions =>
    obtain ⟨thread, asked⟩ := listen_flags _ key endpoint name reactions
    exact serving.of_same thread asked
  | tick t =>
    cases t with
    | stir s =>
      cases s with
      | turn t =>
        rcases t.flags with ⟨thread, asked⟩ | ⟨-, halts | asked⟩
        · exact serving.of_same thread asked
        · exact absurd halts goesOn
        · exact absurd asked (serving.going ▸ Bool.false_ne_true)
      | @device b act still =>
        have same := perform_flags b still
        exact serving.of_same (congrArg Scheduler.thread same)
          (congrArg Scheduler.stopRequested same)
      | launch idle =>
        rw [Scheduler.isRunning, serving.alive] at idle
        cases idle
      | requestStop => exact absurd .request goesOn
    | release since => exact absurd .release goesOn

theorem Onward.serving (onward : Onward m m') (serving : m.bench.Serving) : m'.bench.Serving := by
  induction onward with
  | refl => exact serving
  | tail _ step ih => exact step.1.serving step.2 ih

/-! ### How a stop comes to be pending -/

theorem Turns.not_pending (turns : Turns m m') (free : ¬ m.bench.Pending) : ¬ m'.bench.Pending := by
  induction turns with
  | refl => exact free
  | tail _ turn ih =>
    rcases turn.flags with ⟨thread, asked⟩ | ⟨ended, -⟩
    · exact not_pending_of_same ih thread asked
    · exact not_pending_of_ended ended

theorem turns_begun (b : Bench) : Turns ⟨b.begun, []⟩ ⟨b.start, []⟩ := by
  unfold begun start
  split
  · exact .refl
  · exact turns_settle _

/-- A stop is pending after it if and only if it has failed. -/
theorem pending_stop_iff (timeout : Numeral) (b : Bench) :
    (b.stop timeout).2.Pending ↔ ∃ e, (b.stop timeout).1 = .error e := by
  obtain ⟨result, running, -⟩ := b.stop_spec timeout
  cases hangs : b.hangs with
  | false =>
    rw [hangs] at result running
    constructor
    · rintro ⟨still, -⟩
      rw [running] at still
      cases still
    · rintro ⟨e, failed⟩
      rw [result] at failed
      cases failed
  | true =>
    rw [hangs] at result running
    refine ⟨fun _ => ⟨_, result⟩, fun _ => ⟨running, ?_⟩⟩
    obtain ⟨alive, stuck⟩ := Bool.and_eq_true_iff.mp hangs
    obtain ⟨-, -, scheduler⟩ := requestStop_fields b
    have same : b.requestStop.scheduler.isRunning = true := by rw [scheduler]; exact alive
    rw [stop_eq, if_neg (eq_of_beq alive ▸ Option.some_ne_none _), joined, if_pos stuck,
      if_pos same, scheduler]

theorem leave_scheduler (during : Option String) (b : Bench) :
    (b.leave during).2.scheduler = (b.stop Scheduler.joinTimeout).2.scheduler := by
  unfold leave
  rcases b.stop Scheduler.joinTimeout with ⟨e | _, later⟩ <;> cases during <;> rfl

/-- Of all that can be done to a scheduler, only a stop that fails leaves one pending, also at the
end of a block of work. -/
theorem pending_takeStep {step : SchedulerStep} {b : Bench} (free : ¬ b.Pending)
    (pending : (b.takeStep step).2.Pending) :
    ∃ timeout e, (b.stop timeout).1 = .error e
      ∧ (step = .stop (some timeout)
        ∨ timeout = Scheduler.joinTimeout ∧ ∃ during, step = .leave during) := by
  have started : ¬ b.start.Pending := by
    refine Turns.not_pending (turns_begun b) ?_
    have serving := (serving_begun_iff b).mpr free
    rintro ⟨-, asked⟩
    exact absurd asked (serving.going ▸ Bool.false_ne_true)
  cases step with
  | device act =>
    by_cases still : act = .pump
    · subst still
      exact absurd pending (Turns.not_pending (turns_settle b) free)
    · have same := perform_flags b still
      exact absurd pending (not_pending_of_same free (congrArg Scheduler.thread same)
        (congrArg Scheduler.stopRequested same))
  | start => exact absurd pending started
  | enter => exact absurd pending started
  | stop timeout =>
    cases timeout with
    | none => exact absurd pending free
    | some timeout =>
      obtain ⟨e, failed⟩ := (pending_stop_iff timeout b).mp pending
      exact ⟨timeout, e, failed, Or.inl rfl⟩
  | leave during =>
    have left : (b.stop Scheduler.joinTimeout).2.Pending := by
      unfold Pending
      rw [← leave_scheduler during]
      exact pending
    obtain ⟨e, failed⟩ := (pending_stop_iff _ b).mp left
    exact ⟨_, e, failed, Or.inr ⟨rfl, during, rfl⟩⟩
  | subscribe key endpoint name reactions =>
    obtain ⟨thread, asked⟩ := listen_flags b key endpoint name reactions
    exact absurd pending (not_pending_of_same free thread asked)
  | unsubscribe key =>
    have ended : Turns ⟨b, []⟩ ⟨b.unsubscribe key, []⟩ := .single (.unsubscribe key)
    exact absurd pending (ended.not_pending free)

/-! ### What is read -/

/-- The subscriptions that were read, and those that the round under way has still to read. -/
def agenda (m : Moment) : List Subscription :=
  m.bench.readings.map (·.subscription) ++ m.awaiting

theorem Turn.agenda (turn : Turn m m') : m.agenda <+: m'.agenda := by
  obtain ⟨-, ⟨s, served, serves⟩ | ⟨spares, same | ⟨idle, begun⟩⟩⟩ := turn.spec
  · simp [Moment.agenda, served, serves.readings]
  · simp [Moment.agenda, same, spares.readings]
  · simp [Moment.agenda, idle, spares.readings]

theorem Turns.agenda (turns : Turns m m') : m.agenda <+: m'.agenda := by
  induction turns with
  | refl => exact List.prefix_refl _
  | tail _ turn ih => exact ih.trans turn.agenda

end Moment

end AcceptanceBench
