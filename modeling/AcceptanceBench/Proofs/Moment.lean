import AcceptanceBench.Proofs.Effect
import Mathlib.Logic.Relation

/-!
The moments of a scheduler's course, down to the inside of a round and of a listener's reaction.
`Turn` is what the thread does, `Tick` what anyone does who does not subscribe, and `Next` what
anyone does at all, one call at a time. Every step of a script is a course of such moments, so what
all of them preserve holds throughout every script.
-/

namespace AcceptanceBench

open Relation (ReflTransGen)

/-- A moment: the bench, and the subscriptions that the round under way has still to serve. -/
structure Moment where
  bench : Bench
  awaiting : List Subscription

namespace Moment

/-- What the thread does: it begins a round on the subscriptions that are there, reads the link of
the next one, carries out what a listener asks for, or ends. -/
inductive Turn : Moment → Moment → Prop
  | beginRound {b : Bench} (alive : b.scheduler.thread = some .alive)
      (going : b.scheduler.stopRequested = false) : Turn ⟨b, []⟩ ⟨b, b.scheduler.subscriptions⟩
  | fail {b later : Bench} {s : Subscription} {rest : List Subscription} {e : Error}
      (fetched : b.fetch s = (.error e, later)) : Turn ⟨b, s :: rest⟩ ⟨later.dropFailed s e, rest⟩
  | pass {b later : Bench} {s : Subscription} {rest : List Subscription}
      (fetched : b.fetch s = (.ok [], later)) : Turn ⟨b, s :: rest⟩ ⟨later, rest⟩
  | hand {b later : Bench} {s : Subscription} {rest : List Subscription} {c : UInt8} {cs : Bytes}
      (fetched : b.fetch s = (.ok (c :: cs), later)) :
      Turn ⟨b, s :: rest⟩ ⟨(later.hand s (c :: cs)).2, rest⟩
  | unsubscribe {b : Bench} {rest : List Subscription} (key : String) :
      Turn ⟨b, rest⟩ ⟨b.unsubscribe key, rest⟩
  | feed {b : Bench} {rest : List Subscription} (endpoint : String) (chunks : List Bytes) :
      Turn ⟨b, rest⟩ ⟨b.feed endpoint chunks, rest⟩
  | stop {b : Bench} {rest : List Subscription} : Turn ⟨b, rest⟩ ⟨b.stopFromThread, rest⟩
  | complain {b : Bench} {rest : List Subscription} (n : Notice) : Turn ⟨b, rest⟩ ⟨b.note n, rest⟩
  | finish {b : Bench} (alive : b.scheduler.thread = some .alive)
      (asked : b.scheduler.stopRequested = true) :
      Turn ⟨b, []⟩ ⟨b.onScheduler fun s => { s with thread := some .ended }, []⟩

/-- What goes on while nobody subscribes and no stop comes to its end: the thread takes a turn, or
between two rounds someone acts on a device, starts the thread or asks it to end. -/
inductive Stir : Moment → Moment → Prop
  | turn {m m' : Moment} (t : Turn m m') : Stir m m'
  | device {b : Bench} (act : DeviceAct) (still : act ≠ .pump) :
      Stir ⟨b, []⟩ ⟨(b.perform act).2, []⟩
  | launch {b : Bench} (idle : b.scheduler.isRunning = false) :
      Stir ⟨b, []⟩
        ⟨b.onScheduler fun s => { s with stopRequested := false, thread := some .alive }, []⟩
  | requestStop {b : Bench} : Stir ⟨b, []⟩ ⟨b.requestStop, []⟩

/-- What goes on without a new subscription. A stop that has asked the thread to end lets go of it,
whatever the scheduler holds by then; calls come one at a time, so nobody has subscribed since. -/
inductive Tick : Moment → Moment → Prop
  | stir {m m' : Moment} (s : Stir m m') : Tick m m'
  | release {asked b : Bench} (since : ReflTransGen Stir ⟨asked.requestStop, []⟩ ⟨b, []⟩) :
      Tick ⟨b, []⟩ ⟨b.onScheduler fun s => { s with thread := none }, []⟩

/-- What anyone does: something goes on, or between two rounds a listener is subscribed. -/
inductive Next : Moment → Moment → Prop
  | tick {m m' : Moment} (t : Tick m m') : Next m m'
  | listen {b : Bench} (key endpoint : String) (name : Option String) (reactions : List Reaction) :
      Next ⟨b, []⟩ ⟨(b.listen key endpoint name reactions).2, []⟩

/-- From one moment to another by turns of the thread alone. -/
abbrev Turns : Moment → Moment → Prop := ReflTransGen Turn

/-- From one moment to another without a new subscription. -/
abbrev Ticks : Moment → Moment → Prop := ReflTransGen Tick

/-- From one moment to another. -/
abbrev Course : Moment → Moment → Prop := ReflTransGen Next

theorem Turns.stirs {m m' : Moment} (h : Turns m m') : ReflTransGen Stir m m' :=
  ReflTransGen.mono (fun _ _ => Stir.turn) _ _ h

theorem ticks_of_stirs {m m' : Moment} (h : ReflTransGen Stir m m') : Ticks m m' :=
  ReflTransGen.mono (fun _ _ => Tick.stir) _ _ h

theorem Turns.ticks {m m' : Moment} (h : Turns m m') : Ticks m m' :=
  ticks_of_stirs h.stirs

theorem Ticks.course {m m' : Moment} (h : Ticks m m') : Course m m' :=
  ReflTransGen.mono (fun _ _ => Next.tick) _ _ h

theorem Turns.course {m m' : Moment} (h : Turns m m') : Course m m' := h.ticks.course

theorem Turn.course {m m' : Moment} (t : Turn m m') : Course m m' :=
  .single (.tick (.stir (.turn t)))

/-! ### The course of a round -/

theorem turns_unsubscribe_foldl (rest : List Subscription) (keys : List String) (b : Bench) :
    Turns ⟨b, rest⟩ ⟨keys.foldl (fun b key => b.unsubscribe key) b, rest⟩ := by
  induction keys generalizing b with
  | nil => exact .refl
  | cons key keys ih => exact .head (.unsubscribe key) (ih _)

/-- A reaction is a course of the acts that it asks for. -/
theorem turns_react (rest : List Subscription) (s : Subscription) (r : Reaction) (b : Bench) :
    Turns ⟨b, rest⟩ ⟨b.react s r, rest⟩ := by
  rcases r with ⟨keys, feed, stop, raise⟩
  have raised (b : Bench) : Turns ⟨b, rest⟩ ⟨b.react s ⟨[], none, false, raise⟩, rest⟩ := by
    cases raise with
    | none => exact .refl
    | some f => exact .single (.complain _)
  have stopped (b : Bench) : Turns ⟨b, rest⟩ ⟨b.react s ⟨[], none, stop, raise⟩, rest⟩ := by
    cases stop with
    | false => exact raised b
    | true => exact .head .stop (raised _)
  have fed (b : Bench) : Turns ⟨b, rest⟩ ⟨b.react s ⟨[], feed, stop, raise⟩, rest⟩ := by
    rcases feed with _ | ⟨endpoint, chunks⟩
    · exact stopped b
    · exact .head (.feed endpoint chunks) (stopped _)
  exact (turns_unsubscribe_foldl rest keys b).trans (fed _)

/-- Serving a subscription is a course that takes it off those that wait for it. -/
theorem turns_serve (b : Bench) (s : Subscription) (rest : List Subscription) :
    Turns ⟨b, s :: rest⟩ ⟨(b.serve s).2, rest⟩ := by
  unfold Bench.serve
  rcases fetched : b.fetch s with ⟨e | _ | ⟨c, cs⟩, later⟩
  · exact .single (.fail fetched)
  · exact .single (.pass fetched)
  · refine .head (.hand fetched) ?_
    simp only [Bench.deliver]
    rcases later.hand s (c :: cs) with ⟨_ | reaction, handed⟩
    · exact .refl
    · exact turns_react rest s reaction handed

theorem turns_serveAll (subscriptions : List Subscription) (b : Bench) :
    Turns ⟨b, subscriptions⟩ ⟨(Bench.serveAll subscriptions b).2, []⟩ := by
  induction subscriptions generalizing b with
  | nil => exact .refl
  | cons s rest ih => exact (turns_serve b s rest).trans (ih _)

/-- Running on until idle is a course of turns. -/
theorem turns_settle (b : Bench) : Turns ⟨b, []⟩ ⟨b.settle, []⟩ := by
  fun_induction Bench.settle b with
  | case1 b alive asked => exact .single (.finish alive asked)
  | case2 b alive going later round ih =>
    have served := turns_serveAll b.scheduler.subscriptions b
    rw [← Bench.round, round] at served
    exact .head (.beginRound alive (Bool.eq_false_iff.mpr going)) (served.trans ih)
  | case3 b alive going later round =>
    have served := turns_serveAll b.scheduler.subscriptions b
    rw [← Bench.round, round] at served
    exact .head (.beginRound alive (Bool.eq_false_iff.mpr going)) served
  | case4 => exact .refl

/-! ### What a turn does -/

open Bench

/-- A turn serves the next subscription, or reads nothing at all; a round begins on the
subscriptions that are there. -/
theorem Turn.spec {m m' : Moment} (h : Turn m m') :
    Shrinks m.bench m'.bench
      ∧ ((∃ s, m.awaiting = s :: m'.awaiting ∧ Serves s m.bench m'.bench)
        ∨ (Spares m.bench m'.bench ∧ (m'.awaiting = m.awaiting
          ∨ m.awaiting = [] ∧ m'.awaiting = m.bench.scheduler.subscriptions))) := by
  have same (b : Bench) : Spares b b := spares_of_same rfl rfl rfl rfl
  cases h with
  | beginRound alive going =>
    exact ⟨shrinks_of_same rfl rfl, Or.inr ⟨same _, Or.inr ⟨rfl, rfl⟩⟩⟩
  | @fail b later s rest e fetched =>
    obtain ⟨outcome, rack, scheduler, readings, deliveries, handles, buffers⟩ :=
      fetch_fields fetched
    have devices : later.devices = (s.link.read b.toRack).2.devices := congrArg Rack.devices rack
    refine ⟨(shrinks_of_same scheduler handles).trans (shrinks_dropFailed later s e),
      Or.inl ⟨s, rfl, ?_⟩⟩
    refine ⟨?_, ?_, devices, congrArg List.length buffers, fun index _ => ?_⟩
    · rw [outcome, ← readings]
      rfl
    · rw [outcome, Reading.delivery?]
      exact deliveries.trans (List.append_nil _).symm
    · rw [outcome, Reading.found, ite_self, List.append_nil, buffer, buffer, ← buffers]
      rfl
  | @pass b later s rest fetched =>
    obtain ⟨outcome, rack, scheduler, readings, deliveries, handles, buffers⟩ := fetch_fields
      fetched
    refine ⟨shrinks_of_same scheduler handles, Or.inl ⟨s, rfl, ?_⟩⟩
    refine ⟨?_, ?_, congrArg Rack.devices rack, congrArg List.length buffers, fun index _ => ?_⟩
    · rw [outcome, ← readings]
    · rw [outcome, Reading.delivery?]
      exact deliveries.trans (List.append_nil _).symm
    · rw [outcome, Reading.found, ite_self, List.append_nil, buffer, buffer, ← buffers]
  | @hand b later s rest c cs fetched =>
    obtain ⟨outcome, rack, scheduler, readings, deliveries, handles, buffers⟩ := fetch_fields
      fetched
    obtain ⟨rack', scheduler', readings', deliveries', handles'⟩ := hand_fields later s (c :: cs)
    obtain ⟨places, received⟩ := hand_received later s (c :: cs)
    refine ⟨shrinks_of_same (scheduler'.trans scheduler) (handles'.trans handles),
      Or.inl ⟨s, rfl, ?_⟩⟩
    refine ⟨?_, ?_, congrArg Rack.devices (rack'.trans rack),
      places.trans (congrArg List.length buffers), fun index there => ?_⟩
    · rw [outcome, ← readings, readings']
    · rw [outcome, ← deliveries, deliveries']
      rfl
    · rw [received index (buffers ▸ there), outcome, buffer, buffer, buffers, Reading.found]
  | unsubscribe key =>
    exact ⟨shrinks_unsubscribe _ key, Or.inr ⟨spares_unsubscribe _ key, Or.inl rfl⟩⟩
  | feed endpoint chunks =>
    exact ⟨shrinks_of_same rfl rfl, Or.inr ⟨spares_feed _ endpoint chunks, Or.inl rfl⟩⟩
  | stop => exact ⟨(stopFromThread_spec _).2, Or.inr ⟨(stopFromThread_spec _).1, Or.inl rfl⟩⟩
  | complain n =>
    exact ⟨shrinks_of_same rfl rfl,
      Or.inr ⟨spares_of_same rfl rfl rfl rfl, Or.inl rfl⟩⟩
  | finish alive asked =>
    exact ⟨⟨.refl _, rfl, rfl, fun none => by simp [onScheduler] at none⟩,
      Or.inr ⟨spares_of_same rfl rfl rfl rfl, Or.inl rfl⟩⟩

/-- Between rounds nothing is read. -/
theorem Stir.spec {m m' : Moment} (h : Stir m m') :
    Turn m m' ∨ (m.awaiting = [] ∧ m'.awaiting = [] ∧ Spares m.bench m'.bench
      ∧ Shrinks m.bench m'.bench) := by
  cases h with
  | turn t => exact Or.inl t
  | device act still => exact Or.inr ⟨rfl, rfl, perform_spec _ still⟩
  | launch idle =>
    refine Or.inr ⟨rfl, rfl, spares_of_same rfl rfl rfl rfl, ?_⟩
    exact ⟨.refl _, rfl, rfl, fun none => by simp [onScheduler] at none⟩
  | requestStop =>
    obtain ⟨spares, shrinks, -, -⟩ := requestStop_spec _
    exact Or.inr ⟨rfl, rfl, spares, shrinks⟩

/-- What a stop has dropped is not back as long as nobody subscribes. -/
theorem dropped_since {asked : Bench} {m : Moment}
    (since : ReflTransGen Stir ⟨asked.requestStop, []⟩ m) :
    m.bench.scheduler.subscriptions = [] := by
  induction since with
  | refl => exact (requestStop_spec asked).2.2.1
  | tail _ stir ih =>
    have shrinks := stir.spec.elim (fun turn => turn.spec.1) fun between => between.2.2.2
    have kept := shrinks.subscriptions
    rw [ih] at kept
    exact List.sublist_nil.mp kept

theorem Tick.spec {m m' : Moment} (h : Tick m m') :
    Turn m m' ∨ (m.awaiting = [] ∧ m'.awaiting = [] ∧ Spares m.bench m'.bench
      ∧ Shrinks m.bench m'.bench) := by
  cases h with
  | stir s => exact s.spec
  | release since =>
    have dropped := dropped_since since
    refine Or.inr ⟨rfl, rfl, spares_of_same rfl rfl rfl rfl, ?_⟩
    exact ⟨.refl _, rfl, rfl, fun _ => Or.inl dropped⟩

/-- Between rounds a script reads nothing, and subscribes at most one more. -/
theorem Next.spec {m m' : Moment} (h : Next m m') :
    Turn m m' ∨ (m.awaiting = [] ∧ m'.awaiting = [] ∧ Spares m.bench m'.bench
      ∧ (Shrinks m.bench m'.bench ∨ ∃ added, Gains m.bench m'.bench added)) := by
  cases h with
  | tick t =>
    refine t.spec.imp_right fun ⟨idle, idle', spares, shrinks⟩ => ?_
    exact ⟨idle, idle', spares, Or.inl shrinks⟩
  | listen key endpoint name reactions =>
    exact Or.inr ⟨rfl, rfl, listen_spec _ key endpoint name reactions⟩

theorem Turns.shrinks {m m' : Moment} (h : Turns m m') : Shrinks m.bench m'.bench := by
  induction h with
  | refl => exact shrinks_of_same rfl rfl
  | tail _ turn ih => exact ih.trans turn.spec.1

/-- Ids are never given out again. -/
theorem Course.nextId_le {m m' : Moment} (course : Course m m') :
    m.bench.scheduler.nextId ≤ m'.bench.scheduler.nextId := by
  induction course with
  | refl => exact Nat.le_refl _
  | tail _ next ih =>
    refine Nat.le_trans ih ?_
    rcases next.spec with turn | ⟨-, -, -, shrinks | ⟨added, gains⟩⟩
    · exact Nat.le_of_eq turn.spec.1.nextId.symm
    · exact Nat.le_of_eq shrinks.nextId.symm
    · exact gains.nextId.symm ▸ Nat.le_succ _

/-! ### The course of a script -/

theorem ticks_start (b : Bench) : Ticks ⟨b, []⟩ ⟨b.start, []⟩ := by
  unfold Bench.start
  cases idle : b.scheduler.isRunning with
  | true => exact .refl
  | false => exact .head (.stir (.launch idle)) (turns_settle _).ticks

/-- Once it was asked to, the thread ends by itself, or is stuck. -/
theorem stirs_requestStop (b : Bench) : ReflTransGen Stir ⟨b.requestStop, []⟩
    ⟨if b.stuck then b.requestStop else b.requestStop.settle, []⟩ := by
  cases b.stuck with
  | true => exact .refl
  | false => exact (turns_settle b.requestStop).stirs

/-- A stop of a scheduler that was started drops what is left, whether the thread ends or not. -/
theorem stop_dropped (timeout : Numeral) {b : Bench} (started : b.scheduler.thread ≠ none) :
    (b.stop timeout).2.scheduler.subscriptions = [] := by
  have dropped := dropped_since (stirs_requestStop b)
  unfold Bench.stop
  cases thread : b.scheduler.thread with
  | none => exact absurd thread started
  | some t =>
    dsimp only
    generalize (if b.stuck then b.requestStop else b.requestStop.settle) = later at dropped ⊢
    split
    · exact dropped
    · exact dropped

theorem ticks_stop (timeout : Numeral) (b : Bench) : Ticks ⟨b, []⟩ ⟨(b.stop timeout).2, []⟩ := by
  have since := stirs_requestStop b
  have joined : Ticks ⟨b, []⟩ _ := .head (.stir .requestStop) (ticks_of_stirs since)
  unfold Bench.stop
  cases b.scheduler.thread with
  | none => exact .refl
  | some t =>
    dsimp only
    generalize (if b.stuck then b.requestStop else b.requestStop.settle) = later at since joined ⊢
    split
    · exact joined
    · exact joined.tail (.release since)

theorem ticks_leave (during : Option String) (b : Bench) :
    Ticks ⟨b, []⟩ ⟨(b.leave during).2, []⟩ := by
  have stopped := ticks_stop Scheduler.joinTimeout b
  unfold Bench.leave
  rcases ended : b.stop Scheduler.joinTimeout with ⟨e | _, later⟩ <;> rw [ended] at stopped
  · cases during with
    | none => exact stopped
    | some name => exact stopped.tail (.stir (.turn (.complain _)))
  · cases during with
    | none => exact stopped
    | some name => exact stopped

theorem ticks_perform (act : DeviceAct) (b : Bench) : Ticks ⟨b, []⟩ ⟨(b.perform act).2, []⟩ := by
  by_cases still : act = .pump
  · subst still
    exact (turns_settle b).ticks
  · exact .single (.stir (.device act still))

theorem ticks_note_foldl (notices : List Notice) (b : Bench) :
    Ticks ⟨b, []⟩ ⟨notices.foldl (fun b n => b.note n) b, []⟩ := by
  induction notices generalizing b with
  | nil => exact .refl
  | cons n rest ih => exact .head (.stir (.turn (.complain n))) (ih _)

/-- Every step of a script is a course of moments that begins and ends between rounds. -/
theorem course_takeStep (step : SchedulerStep) (b : Bench) :
    Course ⟨b, []⟩ ⟨(b.takeStep step).2, []⟩ := by
  cases step with
  | device act => exact (ticks_perform act b).course
  | start => exact (ticks_start b).course
  | stop timeout =>
    cases timeout with
    | none => exact .refl
    | some timeout => exact (ticks_stop timeout b).course
  | enter => exact (ticks_start b).course
  | leave during => exact (ticks_leave during b).course
  | subscribe key endpoint name reactions => exact .single (.listen key endpoint name reactions)
  | unsubscribe key => exact (Turn.unsubscribe key).course

/-- A moment that a scheduler can come to which begins without a thread or subscriptions, on devices
that nobody has used. -/
def Reached (m : Moment) : Prop :=
  ∃ interval threadName, Course ⟨.make [] (.stopped interval threadName), []⟩ m

theorem reached_make (interval : Numeral) (threadName : String) :
    Reached ⟨.make [] (.stopped interval threadName), []⟩ := ⟨interval, threadName, .refl⟩

theorem Reached.course {m m' : Moment} (reached : Reached m) (course : Course m m') :
    Reached m' := by
  obtain ⟨interval, threadName, before⟩ := reached
  exact ⟨interval, threadName, before.trans course⟩

theorem Reached.takeStep {b : Bench} (reached : Reached ⟨b, []⟩) (step : SchedulerStep) :
    Reached ⟨(b.takeStep step).2, []⟩ :=
  reached.course (course_takeStep step b)

/-- The bench that steps leave behind where there was none. -/
def afterSteps (steps : List SchedulerStep) : Bench :=
  steps.foldl (fun b step => (b.takeStep step).2) (.make [] .usual)

theorem reached_afterSteps (steps : List SchedulerStep) : Reached ⟨afterSteps steps, []⟩ := by
  unfold afterSteps
  have begins : Reached ⟨.make [] .usual, []⟩ := reached_make _ _
  generalize Bench.make [] .usual = b at begins ⊢
  induction steps generalizing b with
  | nil => exact begins
  | cons step rest ih => exact ih _ (begins.takeStep step)

/-- What a script answers shows only moments that are reached. -/
theorem reached_runScheduler (interval : Numeral) (threadName : String)
    (steps : List SchedulerStep) :
    ∀ answer ∈ Bench.runScheduler (.stopped interval threadName) steps,
      Reached ⟨answer.before, []⟩ ∧ Reached ⟨answer.after, []⟩ := by
  unfold Bench.runScheduler
  have begins := reached_make interval threadName
  generalize Bench.make [] (.stopped interval threadName) = b at begins ⊢
  induction steps generalizing b with
  | nil =>
    intro answer member
    exact absurd member List.not_mem_nil
  | cons step rest ih =>
    have next := begins.takeStep step
    intro answer member
    rcases List.mem_cons.mp member with rfl | member
    · exact ⟨begins, next⟩
    · exact ih _ next answer member

end Moment

end AcceptanceBench
