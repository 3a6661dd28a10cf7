import AcceptanceBench.Proofs.Moment
import AcceptanceBench.Proofs.WaitPreserves
import AcceptanceBench.Step.Registry

/-!
The scenes of a registry's course, down to the inside of a round. Between two rounds channels are
opened, closed, written to and reset; beneath them goes on whatever goes on at their bench. Every
step of a script is a course of such scenes, a wait with all that happens meanwhile included.
-/

namespace AcceptanceBench

open Relation (ReflTransGen)

/-- The answers of the events that happened during a step. -/
def StepAnswer.events {σ : Type} (a : StepAnswer σ) : List (Answer σ) :=
  match a.waiting with
  | some waiting => waiting.events
  | none => []

/-- A property of every state that the answer of a step shows. -/
def StepAnswer.Shows {σ : Type} (a : StepAnswer σ) (holds : σ → Prop) : Prop :=
  holds a.before ∧ holds a.after ∧ ∀ event ∈ a.events, holds event.before ∧ holds event.after

section WaitOnChannel

variable {σ ε : Type} {registry : σ → Registry} {put : Registry → σ → σ}
  (registry_put : ∀ g s, registry (put g s) = g) {perform : ε → σ → Except Error Reply × σ}

theorem before_waitOnChannel [Clock] (predicate : Except Error Predicate)
    (asked : Option ChannelWait) (events : List (Scheduled ε)) (s : σ) :
    (waitOnChannel registry put registry_put perform predicate asked events s).before = s := by
  unfold waitOnChannel
  cases predicate with
  | error e => rfl
  | ok predicate =>
    cases asked with
    | none => rfl
    | some asked =>
      dsimp only
      cases (registry s).active asked.name with
      | error e => rfl
      | ok c => rfl

/-- A wait on a channel preserves what its events preserve and what goes on at the bench
preserves. -/
theorem holds_waitOnChannel [Clock] {holds : List (Answer σ) → σ → Prop}
    (acts : ∀ past e s, holds past s →
      holds (past ++ [Answer.ofAct perform e s]) (perform e s).2)
    (goesOn : ∀ past s later, holds past s →
      Moment.Ticks ⟨(registry s).bench, []⟩ ⟨later, []⟩ →
      holds past (put { registry s with bench := later } s))
    (predicate : Except Error Predicate) (asked : Option ChannelWait) (events : List (Scheduled ε))
    {s : σ} (before : holds [] s) :
    let answer := waitOnChannel registry put registry_put perform predicate asked events s
    holds answer.events answer.after := by
  unfold waitOnChannel
  cases predicate with
  | error e => exact before
  | ok predicate =>
    cases asked with
    | none => exact before
    | some asked =>
      dsimp only
      cases (registry s).active asked.name with
      | error e => exact before
      | ok c =>
        dsimp only
        generalize around_eq : Surroundings.ofBench _ _ _ c.buffer _ = around
        have preserves : around.Preserves holds := by
          subst around_eq
          refine ⟨fun past s held => ?_, fun past e s held => acts past e s held⟩
          exact goesOn past s _ held (Moment.turns_settle _).ticks
        have ended := Wait.holds_run preserves
          ⟨((registry s).bench.buffer c.buffer).name, asked.timeout, predicate⟩ events before
        exact goesOn _ _ _ ended (Moment.ticks_note_foldl _ _)

end WaitOnChannel

/-- The registry after some acts, one after another. -/
def Registry.performAll (acts : List RegistryAct) (g : Registry) : Registry :=
  acts.foldl (fun g act => (g.perform act).2) g

/-- A scene: the registry, and the subscriptions that the round under way has still to serve. -/
structure Scene where
  registry : Registry
  awaiting : List Subscription

namespace Scene

/-- What happens next: something goes on at the bench, or between two rounds someone uses the
registry. -/
inductive Next : Scene → Scene → Prop
  | tick {g : Registry} {awaiting : List Subscription} {later : Moment}
      (t : Moment.Tick ⟨g.bench, awaiting⟩ later) :
      Next ⟨g, awaiting⟩ ⟨{ g with bench := later.bench }, later.awaiting⟩
  | openChannel {g : Registry} (name : String) (baud bits : Whole) :
      Next ⟨g, []⟩ ⟨(g.openChannel name baud bits).2, []⟩
  | close {g : Registry} (name : String) : Next ⟨g, []⟩ ⟨(g.close name).2, []⟩
  | closeAll {g : Registry} : Next ⟨g, []⟩ ⟨g.closeAll.2, []⟩
  | write {g : Registry} (name : String) (data : Data) : Next ⟨g, []⟩ ⟨(g.write name data).2, []⟩
  | resetData {g : Registry} (name : String) : Next ⟨g, []⟩ ⟨(g.resetData name).2, []⟩

/-- From one scene to another. -/
abbrev Course : Scene → Scene → Prop := ReflTransGen Next

/-- From one scene to another while the open channels have a property. -/
abbrev CourseWhile (holds : List Channel → Prop) : Scene → Scene → Prop :=
  ReflTransGen fun m m' => holds m.registry.opened ∧ Next m m'

variable {holds : List Channel → Prop} {g : Registry}

theorem CourseWhile.course {m m' : Scene} (h : CourseWhile holds m m') : Course m m' :=
  ReflTransGen.mono (fun _ _ => And.right) _ _ h

/-- What goes on at the bench leaves the open channels as they are. -/
theorem courseWhile_ticks {awaiting : List Subscription} {later : Moment} (held : holds g.opened)
    (h : Moment.Ticks ⟨g.bench, awaiting⟩ later) :
    CourseWhile holds ⟨g, awaiting⟩ ⟨{ g with bench := later.bench }, later.awaiting⟩ := by
  induction h with
  | refl => exact .refl
  | tail _ t ih => exact ih.tail ⟨held, .tick t⟩

/-- Every act on the channels is a course of scenes that begins and ends between rounds. -/
theorem courseWhile_perform (held : holds g.opened) (act : RegistryAct) :
    CourseWhile holds ⟨g, []⟩ ⟨(g.perform act).2, []⟩ := by
  cases act with
  | device act => exact courseWhile_ticks held (Moment.ticks_perform act g.bench)
  | start => exact courseWhile_ticks held (Moment.ticks_start g.bench)
  | stop timeout => exact courseWhile_ticks held (Moment.ticks_stop timeout g.bench)
  | openChannel name baud bits => exact .single ⟨held, .openChannel name baud bits⟩
  | close name => exact .single ⟨held, .close name⟩
  | closeAll => exact .single ⟨held, .closeAll⟩
  | write name data => exact .single ⟨held, .write name data⟩
  | resetData name => exact .single ⟨held, .resetData name⟩
  | isOpen name => exact .refl
  | contents name => exact .refl
  | refused => exact .refl

theorem course_ticks {awaiting : List Subscription} {later : Moment}
    (h : Moment.Ticks ⟨g.bench, awaiting⟩ later) :
    Course ⟨g, awaiting⟩ ⟨{ g with bench := later.bench }, later.awaiting⟩ := by
  have course : CourseWhile (fun _ => True) ⟨g, awaiting⟩
    ⟨{ g with bench := later.bench }, later.awaiting⟩ := courseWhile_ticks trivial h
  exact course.course

theorem course_perform (g : Registry) (act : RegistryAct) :
    Course ⟨g, []⟩ ⟨(g.perform act).2, []⟩ := by
  have course : CourseWhile (fun _ => True) ⟨g, []⟩ ⟨(g.perform act).2, []⟩ :=
    courseWhile_perform trivial act
  exact course.course

/-- Acts one after another are a course. -/
theorem course_performAll (g : Registry) (acts : List RegistryAct) :
    Course ⟨g, []⟩ ⟨g.performAll acts, []⟩ := by
  induction acts generalizing g with
  | nil => exact .refl
  | cons act rest ih => exact (course_perform g act).trans (ih _)

/-- A step goes through the states that its answer shows by courses throughout which the open
channels have a property, if they have it in each of these states. -/
theorem courseWhile_step [Clock] (step : RegistryStep)
    (shown : (g.step step).Shows (holds ·.opened)) :
    (g.step step).Shows fun g' => CourseWhile holds ⟨g, []⟩ ⟨g', []⟩ := by
  cases step with
  | act a =>
    obtain ⟨held, -, -⟩ := shown
    exact ⟨.refl, courseWhile_perform held a, fun _ none => nomatch none⟩
  | wait rule asked events =>
    -- What the events preserve presupposes the property in the states that they show.
    let goes (past : List (Answer Registry)) (g' : Registry) : Prop :=
      (∀ event ∈ past, holds event.before.opened ∧ holds event.after.opened) →
        holds g'.opened ∧ CourseWhile holds ⟨g, []⟩ ⟨g', []⟩
          ∧ ∀ event ∈ past, CourseWhile holds ⟨g, []⟩ ⟨event.before, []⟩
            ∧ CourseWhile holds ⟨g, []⟩ ⟨event.after, []⟩
    have acts (past : List (Answer Registry)) (act : RegistryAct) (g' : Registry)
        (gone : goes past g') :
        goes (past ++ [Answer.ofAct Registry.perform act g']) (g'.perform act).2 := by
      intro shown
      obtain ⟨held, course, before⟩ :=
        gone fun event member => shown event (List.mem_append_left _ member)
      obtain ⟨-, after⟩ := shown _ (List.mem_append_right _ (List.mem_singleton_self _))
      have onward := course.trans (courseWhile_perform held act)
      refine ⟨after, onward, fun event member => ?_⟩
      rcases List.mem_append.mp member with old | new
      · exact before event old
      · rw [List.mem_singleton.mp new]
        exact ⟨course, onward⟩
    have goesOn (past : List (Answer Registry)) (g' : Registry) (later : Bench)
        (gone : goes past g') (ticks : Moment.Ticks ⟨g'.bench, []⟩ ⟨later, []⟩) :
        goes past { g' with bench := later } := by
      intro shown
      obtain ⟨held, course, before⟩ := gone shown
      exact ⟨held, course.trans (courseWhile_ticks held ticks), before⟩
    have before : (g.step (.wait rule asked events)).before = g :=
      before_waitOnChannel _ _ asked events g
    obtain ⟨held, -, past⟩ := shown
    rw [before] at held
    have start : goes [] g := fun _ => ⟨held, .refl, fun _ none => nomatch none⟩
    have ended := @holds_waitOnChannel Registry RegistryAct id (fun g _ => g) (fun _ _ => rfl)
      Registry.perform _ goes acts goesOn (Predicate.make rule) asked events g start
    obtain ⟨-, after, shown⟩ := ended past
    refine ⟨?_, after, shown⟩
    rw [before]

/-- A script goes through the states that its answers show by such courses. -/
theorem courseWhile_runSteps [Clock] (steps : List RegistryStep)
    (shown : ∀ answer ∈ runSteps Registry.step steps g, answer.Shows (holds ·.opened)) :
    ∀ answer ∈ runSteps Registry.step steps g,
      answer.Shows fun g' => CourseWhile holds ⟨g, []⟩ ⟨g', []⟩ := by
  induction steps generalizing g with
  | nil =>
    intro answer member
    exact absurd member List.not_mem_nil
  | cons step rest ih =>
    have first := courseWhile_step step (shown _ List.mem_cons_self)
    intro answer member
    rcases List.mem_cons.mp member with rfl | member
    · exact first
    · have onward :=
        ih (fun later there => shown later (List.mem_cons_of_mem _ there)) answer member
      refine ⟨first.2.1.trans onward.1, first.2.1.trans onward.2.1, fun event happened => ?_⟩
      obtain ⟨before, after⟩ := onward.2.2 event happened
      exact ⟨first.2.1.trans before, first.2.1.trans after⟩

/-- A scene that a registry can come to which begins without channels, on a scheduler that was never
started and devices that nobody has used. -/
def Reached (m : Scene) : Prop :=
  ∃ channels environ serial ports interval threadName,
    Course ⟨.make channels environ serial (.make ports (.stopped interval threadName)), []⟩ m

theorem Reached.course {m m' : Scene} (reached : Reached m) (course : Course m m') :
    Reached m' := by
  obtain ⟨channels, environ, serial, ports, interval, threadName, before⟩ := reached
  exact ⟨channels, environ, serial, ports, interval, threadName, before.trans course⟩

theorem Reached.perform (reached : Reached ⟨g, []⟩) (act : RegistryAct) :
    Reached ⟨(g.perform act).2, []⟩ :=
  reached.course (course_perform g act)

theorem Reached.performAll (reached : Reached ⟨g, []⟩) (acts : List RegistryAct) :
    Reached ⟨g.performAll acts, []⟩ :=
  reached.course (course_performAll g acts)

theorem reached_make (channels : Option Channels) (environ : Table String) (serial : Bool)
    (ports : List Port) (interval : Numeral) (threadName : String) :
    Reached ⟨.make channels environ serial (.make ports (.stopped interval threadName)), []⟩ :=
  ⟨channels, environ, serial, ports, interval, threadName, .refl⟩

/-- Every scene that a script's answers show is reached. -/
theorem reached_run [Clock] (channels : Option Channels) (environ : Table String)
    (serial started : Bool) (steps : List RegistryStep) :
    ∀ answer ∈ Registry.run channels environ serial started steps,
      answer.Shows fun g => Reached ⟨g, []⟩ := by
  have begins : Reached ⟨.make channels environ serial
      (if started then (Bench.make [] .usual).start else .make [] .usual), []⟩ := by
    cases started with
    | false => exact reached_make ..
    | true => exact (reached_make ..).perform .start
  intro answer member
  have any (a : StepAnswer Registry) : a.Shows fun _ => True :=
    ⟨trivial, trivial, fun _ _ => ⟨trivial, trivial⟩⟩
  have shown := @courseWhile_runSteps (fun _ => True) _ _ steps (fun a _ => any a) answer member
  obtain ⟨before, after, events⟩ := shown
  refine ⟨begins.course before.course, begins.course after.course, fun event happened => ?_⟩
  obtain ⟨before, after⟩ := events event happened
  exact ⟨begins.course before.course, begins.course after.course⟩

end Scene

end AcceptanceBench
