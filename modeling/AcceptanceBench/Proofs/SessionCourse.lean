import AcceptanceBench.Proofs.Scene
import AcceptanceBench.Step.Session

/-!
The course of a session: its acts, one after another, and beneath them whatever goes on at its
bench. The channels of a session go through the scenes of a registry meanwhile.
-/

namespace AcceptanceBench.Session

open Relation (ReflTransGen)

/-- A session as it is made: its channels are closed, its scheduler was never started, and it has no
USB reply. -/
def IsNew (s : Session) : Prop :=
  (∃ channels environ serial ports,
    s.registry = .make channels environ serial (.make ports .usual)) ∧ s.usb.reply = none

/-- What happens next: an act is carried out, or something goes on at the bench. -/
inductive Next : Session → Session → Prop
  | act {s : Session} (act : SessionAct) : Next s (s.perform act).2
  | goesOn {s : Session} {later : Bench} (ticks : Moment.Ticks ⟨s.bench, []⟩ ⟨later, []⟩) :
      Next s (s.onBench fun _ => later)

/-- A session that a new one can come to. -/
def Reached (s : Session) : Prop :=
  ∃ first : Session, first.IsNew ∧ ReflTransGen Next first s

variable {s : Session}

theorem reached_of_isNew (new : s.IsNew) : s.Reached := ⟨s, new, .refl⟩

theorem Reached.next {later : Session} (reached : s.Reached) (next : Next s later) :
    later.Reached := by
  obtain ⟨first, new, course⟩ := reached
  exact ⟨first, new, course.tail next⟩

/-- The session after some acts, one after another. -/
def performAll (acts : List SessionAct) (s : Session) : Session :=
  acts.foldl (fun s act => (s.perform act).2) s

theorem course_performAll (s : Session) (acts : List SessionAct) :
    ReflTransGen Next s (s.performAll acts) := by
  induction acts generalizing s with
  | nil => exact .refl
  | cons act rest ih => exact .head (.act act) (ih _)

theorem Reached.performAll (reached : s.Reached) (acts : List SessionAct) :
    (s.performAll acts).Reached := by
  obtain ⟨first, new, course⟩ := reached
  exact ⟨first, new, course.trans (course_performAll s acts)⟩

theorem course_bench {later : Bench} (ticks : Moment.Ticks ⟨s.bench, []⟩ ⟨later, []⟩) :
    Scene.Course ⟨s.registry, []⟩ ⟨(s.onBench fun _ => later).registry, []⟩ :=
  Scene.course_ticks ticks

theorem course_noteAll (s : Session) (notices : List Notice) :
    Scene.Course ⟨s.registry, []⟩ ⟨(s.noteAll notices).registry, []⟩ :=
  course_bench (Moment.ticks_note_foldl notices s.bench)

theorem course_stop (s : Session) (timeout : Numeral) :
    Scene.Course ⟨s.registry, []⟩ ⟨(s.withBench (Bench.stop timeout)).2.registry, []⟩ :=
  course_bench (Moment.ticks_stop timeout s.bench)

/-- The session once its USB reply was cleared and its channels were closed. -/
def shut (s : Session) : Session :=
  { s with usb := s.usb.reset, registry := s.registry.closeAll.2 }

/-- Tearing down closes every channel and stops the scheduler. What the closing raises is the error
that is seen; a failing stop is logged then, and is the error otherwise. -/
theorem tearDown_cases (s : Session) :
    (s.registry.closeAll.1 = .ok ()
        ∧ s.tearDown = s.shut.withBench (Bench.stop Scheduler.joinTimeout))
      ∨ ∃ e notices, s.registry.closeAll.1 = .error e
        ∧ s.tearDown = (.error e, ((s.shut.noteAll [.teardownFailed e]).withBench
          (Bench.stop Scheduler.joinTimeout)).2.noteAll notices) := by
  unfold tearDown shut withRegistry
  dsimp only
  rcases s.registry.closeAll with ⟨e | _, g⟩
  · refine Or.inr ⟨e, ?_⟩
    dsimp only
    split
    · exact ⟨[], rfl, rfl⟩
    · exact ⟨_, rfl, rfl⟩
  · exact Or.inl ⟨rfl, rfl⟩

theorem course_tearDown (s : Session) :
    Scene.Course ⟨s.registry, []⟩ ⟨s.tearDown.2.registry, []⟩ := by
  have shut : Scene.Course ⟨s.registry, []⟩ ⟨s.shut.registry, []⟩ := .single .closeAll
  rcases s.tearDown_cases with ⟨-, torn⟩ | ⟨e, notices, -, torn⟩ <;> rw [torn]
  · exact shut.trans (course_stop _ _)
  · exact ((shut.trans (course_noteAll _ _)).trans (course_stop _ _)).trans (course_noteAll _ _)

theorem leave_after {α : Type} (result : Except Error α) (s : Session) :
    (s.leave result).2 = s.tearDown.2
      ∧ (s.leave result).1 = match s.tearDown.1 with
        | .ok () => result
        | .error e => .error e := by
  unfold leave
  rcases s.tearDown with ⟨e | _, later⟩
  · exact ⟨rfl, rfl⟩
  · exact ⟨rfl, rfl⟩

theorem perform_tearDown (s : Session) : (s.perform .tearDown).2 = s.tearDown.2 :=
  (leave_after _ s).1

theorem course_givenApplication (directory : String) (process : Execution) (s : Session) :
    Scene.Course ⟨s.registry, []⟩ ⟨(s.givenApplication directory process).2.registry, []⟩ := by
  unfold givenApplication
  dsimp only
  split
  · exact course_noteAll s _
  · split
    · exact course_noteAll s _
    · split
      · exact course_noteAll s _
      · exact course_noteAll s _

theorem registry_pause (amount : Amount) (unit : String) (s : Session) :
    (s.pause amount unit).2.registry = s.registry := by
  unfold pause
  split
  · rfl
  · split
    · rfl
    · dsimp only
      split
      · rfl
      · rfl

/-- Every act of a session is a course of scenes of its channels. -/
theorem course_perform (act : SessionAct) (s : Session) :
    Scene.Course ⟨s.registry, []⟩ ⟨(s.perform act).2.registry, []⟩ := by
  cases act with
  | registry act => exact Scene.course_perform s.registry act
  | setUp => exact course_bench (Moment.ticks_start s.bench)
  | tearDown =>
    rw [perform_tearDown]
    exact course_tearDown s
  | enter => exact course_bench (Moment.ticks_start s.bench)
  | givenApplication directory process => exact course_givenApplication directory process s
  | pause amount unit =>
    have same := registry_pause amount unit s
    exact same ▸ .refl
  | openSerial port baud => exact .single (.openChannel port _ _)
  | writeSerial port data => exact .single (.write port data)
  | sendUsb data index hostToDevice tool => exact course_noteAll _ _
  | usbReplyShould operator expected => exact .refl

theorem Next.course {later : Session} (next : Next s later) :
    Scene.Course ⟨s.registry, []⟩ ⟨later.registry, []⟩ := by
  cases next with
  | act act => exact course_perform act s
  | goesOn ticks => exact course_bench ticks

/-- The channels of a session go through scenes of a registry. -/
theorem course_scenes {first : Session} (course : ReflTransGen Next first s) :
    Scene.Course ⟨first.registry, []⟩ ⟨s.registry, []⟩ := by
  induction course with
  | refl => exact .refl
  | tail _ next ih => exact ih.trans next.course

/-- The channels of a session are in a scene that a registry can come to. -/
theorem Reached.scene (reached : s.Reached) : Scene.Reached ⟨s.registry, []⟩ := by
  obtain ⟨first, ⟨⟨channels, environ, serial, ports, made⟩, -⟩, course⟩ := reached
  have begins : Scene.Reached ⟨first.registry, []⟩ := made ▸ Scene.reached_make ..
  exact begins.course (course_scenes course)

theorem shows_waitFor [Clock] (predicate : Except Error Predicate) (asked : Option ChannelWait)
    (events : List (Scheduled SessionAct)) (reached : s.Reached) :
    (s.waitFor predicate asked events).Shows Reached := by
  let holds (past : List (Answer Session)) (s : Session) : Prop :=
    s.Reached ∧ ∀ event ∈ past, event.before.Reached ∧ event.after.Reached
  have acts (past : List (Answer Session)) (act : SessionAct) (s : Session) (held : holds past s) :
      holds (past ++ [Answer.ofAct perform act s]) (s.perform act).2 := by
    obtain ⟨reached, before⟩ := held
    have later := reached.next (.act act)
    refine ⟨later, fun event member => ?_⟩
    rcases List.mem_append.mp member with old | new
    · exact before event old
    · rw [List.mem_singleton.mp new]
      exact ⟨reached, later⟩
  have goesOn (past : List (Answer Session)) (s : Session) (later : Bench) (held : holds past s)
      (ticks : Moment.Ticks ⟨s.registry.bench, []⟩ ⟨later, []⟩) :
      holds past { s with registry := { s.registry with bench := later } } :=
    ⟨held.1.next (.goesOn ticks), held.2⟩
  have before : (s.waitFor predicate asked events).before = s :=
    before_waitOnChannel _ predicate asked events s
  obtain ⟨after, past⟩ := @holds_waitOnChannel Session SessionAct registry
    (fun g s => { s with registry := g }) (fun _ _ => rfl) perform _ holds acts goesOn predicate
    asked events s ⟨reached, fun _ none => nomatch none⟩
  refine ⟨?_, after, past⟩
  rw [before]
  exact reached

theorem shows_step [Clock] (step : SessionStep) (reached : s.Reached) :
    (s.step step).Shows Reached := by
  cases step with
  | act a => exact ⟨reached, reached.next (.act a), fun _ none => nomatch none⟩
  | wait rule asked events => exact shows_waitFor _ asked events reached
  | outputShould check events =>
    cases check with
    | none => exact shows_waitFor _ none events reached
    | some check => exact shows_waitFor _ _ events reached

/-- Every state that a script's answers show is reached. -/
theorem reached_run [Clock] (new : s.IsNew) (steps : List SessionStep) :
    ∀ answer ∈ s.run steps, answer.Shows Reached := by
  unfold run
  have begins := reached_of_isNew new
  clear new
  induction steps generalizing s with
  | nil =>
    intro answer member
    exact absurd member List.not_mem_nil
  | cons step rest ih =>
    have shown := shows_step step begins
    intro answer member
    rcases List.mem_cons.mp member with rfl | member
    · exact shown
    · exact ih shown.2.1 answer member

end AcceptanceBench.Session
