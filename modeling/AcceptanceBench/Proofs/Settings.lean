import AcceptanceBench.Proofs.Coherence
import AcceptanceBench.Proofs.SessionCourse
import AcceptanceBench.Proofs.Stop

/-!
What a session was made with. No act changes its own settings, those of its channels and of their
scheduler, or what its USB requests are sent with, and neither does anything that goes on meanwhile.
-/

namespace AcceptanceBench

open Relation (ReflTransGen)

/-- The poll interval and the thread's name. -/
def Scheduler.settings (s : Scheduler) : Numeral × String := (s.interval, s.threadName)

/-- The channels that there are, the environment, the kind of links, and the scheduler's settings.
-/
def Registry.settings (g : Registry) : Channels × Table String × Bool × Numeral × String :=
  (g.channels, g.environ, g.serial, g.bench.scheduler.settings)

namespace Bench

theorem settings_unsubscribe (key : String) (b : Bench) :
    (b.unsubscribe key).scheduler.settings = b.scheduler.settings := by
  unfold unsubscribe
  split
  · rfl
  · rfl

theorem settings_requestStop (b : Bench) :
    b.requestStop.scheduler.settings = b.scheduler.settings := by
  rw [(requestStop_fields b).2.2]
  rfl

theorem settings_stopFromThread (b : Bench) :
    b.stopFromThread.scheduler.settings = b.scheduler.settings := by
  unfold stopFromThread
  split
  · rfl
  · exact settings_requestStop b

end Bench

namespace Moment

theorem Turn.settings {m m' : Moment} (turn : Turn m m') :
    m'.bench.scheduler.settings = m.bench.scheduler.settings := by
  cases turn with
  | beginRound alive going => rfl
  | @fail b later s rest e fetched =>
    obtain ⟨-, -, scheduler, -⟩ := Bench.fetch_fields fetched
    have kept : later.scheduler.settings = b.scheduler.settings :=
      congrArg Scheduler.settings scheduler
    exact kept
  | pass fetched =>
    obtain ⟨-, -, scheduler, -⟩ := Bench.fetch_fields fetched
    exact congrArg Scheduler.settings scheduler
  | @hand b later s rest c cs fetched =>
    obtain ⟨-, -, scheduler, -⟩ := Bench.fetch_fields fetched
    obtain ⟨-, handed, -⟩ := Bench.hand_fields later s (c :: cs)
    exact congrArg Scheduler.settings (handed.trans scheduler)
  | unsubscribe key => exact Bench.settings_unsubscribe key _
  | feed endpoint chunks => rfl
  | stop => exact Bench.settings_stopFromThread _
  | complain n => rfl
  | finish alive asked => rfl

theorem Stir.settings {m m' : Moment} (stir : Stir m m') :
    m'.bench.scheduler.settings = m.bench.scheduler.settings := by
  cases stir with
  | turn turn => exact turn.settings
  | device act still =>
    cases act with
    | pump => exact absurd rfl still
    | _ => rfl
  | launch idle => rfl
  | requestStop => exact Bench.settings_requestStop _

theorem Tick.settings {m m' : Moment} (tick : Tick m m') :
    m'.bench.scheduler.settings = m.bench.scheduler.settings := by
  cases tick with
  | stir s => exact s.settings
  | release since => rfl

end Moment

namespace Registry

theorem settings_enrol (g : Registry) (name : String) (link : Link) :
    (g.enrol name link).2.settings = g.settings := by
  rw [enrol_eq]
  split
  · rfl
  · rfl

theorem settings_openChannel (name : String) (baud bits : Whole) (g : Registry) :
    (g.openChannel name baud bits).2.settings = g.settings := by
  rcases g.openChannel_cases name baud bits with
    ⟨e, notices, opened⟩ | ⟨-, link, r, -, ⟨e, -, opened⟩ | ⟨held, -, opened⟩⟩ <;> rw [opened]
  · unfold onBench
    dsimp only
    rw [Bench.foldl_note]
    rfl
  · rfl
  · exact settings_enrol (g.linkMade r) name held

theorem settings_shutDownAll (channels : List Channel) (b : Bench) :
    (shutDownAll channels b).2.scheduler.settings = b.scheduler.settings := by
  induction channels generalizing b with
  | nil => rfl
  | cons c rest ih =>
    unfold shutDownAll
    refine (ih _).trans ?_
    split
    · rfl
    · rfl

theorem settings_closeAll (g : Registry) : g.closeAll.2.settings = g.settings := by
  have shut := settings_shutDownAll g.opened g.bench
  unfold closeAll settings
  dsimp only
  split
  · rw [shut]
  · rw [shut]

theorem settings_close (name : String) (g : Registry) : (g.close name).2.settings = g.settings := by
  unfold close
  split
  · rfl
  · dsimp only
    split
    · rfl
    · rfl

theorem settings_write (name : String) (data : Data) (g : Registry) :
    (g.write name data).2.settings = g.settings := by
  unfold write
  split
  · rfl
  · rfl

theorem settings_resetData (name : String) (g : Registry) :
    (g.resetData name).2.settings = g.settings := by
  unfold resetData
  split
  · rfl
  · rfl

end Registry

namespace Scene

theorem Course.settings {m m' : Scene} (course : Course m m') :
    m'.registry.settings = m.registry.settings := by
  induction course with
  | refl => rfl
  | tail _ next ih =>
    refine Eq.trans ?_ ih
    cases next with
    | tick tick =>
      unfold Registry.settings
      rw [← tick.settings]
    | openChannel name baud bits => exact Registry.settings_openChannel name baud bits _
    | close name => exact Registry.settings_close name _
    | closeAll => exact Registry.settings_closeAll _
    | write name data => exact Registry.settings_write name data _
    | resetData name => exact Registry.settings_resetData name _

end Scene

namespace Session

/-- The settings of the session, and what its requests are sent with, are those of another one. -/
structure SameSettings (s s' : Session) : Prop where
  featureDirectory : s'.featureDirectory = s.featureDirectory
  buildCommand : s'.buildCommand = s.buildCommand
  bootDelay : s'.bootDelay = s.bootDelay
  checkTimeout : s'.checkTimeout = s.checkTimeout
  command : s'.usb.command = s.usb.command
  runner : s'.usb.runner = s.usb.runner

variable {origin s : Session}

theorem SameSettings.keep (same : origin.SameSettings s) (registry : Registry)
    (ran : List (List String)) (slept : List Binary64) :
    origin.SameSettings { s with registry, ran, slept } :=
  ⟨same.featureDirectory, same.buildCommand, same.bootDelay, same.checkTimeout, same.command,
    same.runner⟩

theorem SameSettings.leave {α : Type} (same : origin.SameSettings s) (result : Except Error α) :
    origin.SameSettings (s.leave result).2 := by
  have shut : origin.SameSettings s.shut :=
    ⟨same.featureDirectory, same.buildCommand, same.bootDelay, same.checkTimeout, same.command,
      same.runner⟩
  rw [(leave_after result s).1]
  rcases s.tearDown_cases with ⟨-, torn⟩ | ⟨e, notices, -, torn⟩ <;> rw [torn]
  · exact shut.keep ..
  · exact shut.keep ..

theorem tool_send (r : UsbRequest) (tool : ToolOutcome) (u : UsbChannel) :
    (u.send r tool).2.command = u.command ∧ (u.send r tool).2.runner = u.runner := by
  unfold UsbChannel.send
  split
  · exact ⟨rfl, rfl⟩
  · split
    · exact ⟨rfl, rfl⟩
    · exact ⟨rfl, rfl⟩

theorem SameSettings.sendUsb (same : origin.SameSettings s) (data : Data) (index : Option Whole)
    (hostToDevice : Bool) (tool : ToolOutcome) :
    origin.SameSettings (s.sendUsb data index hostToDevice tool).2 := by
  obtain ⟨command, runner⟩ := tool_send _ tool s.usb
  exact ⟨same.featureDirectory, same.buildCommand, same.bootDelay, same.checkTimeout,
    command.trans same.command, runner.trans same.runner⟩

/-- No act changes the settings. -/
theorem SameSettings.perform (same : origin.SameSettings s) (act : SessionAct) :
    origin.SameSettings (s.perform act).2 := by
  cases act with
  | registry act => exact same.keep ..
  | setUp => exact same.keep ..
  | tearDown => exact same.leave _
  | enter => exact same.keep ..
  | givenApplication directory process =>
    unfold Session.perform givenApplication
    dsimp only
    split
    · exact same.keep ..
    · split
      · exact same.keep ..
      · split
        · exact same.keep ..
        · exact same.keep ..
  | pause amount unit =>
    unfold Session.perform pause
    dsimp only
    split
    · exact same
    · split
      · exact same
      · split
        · exact same
        · exact same.keep ..
  | openSerial port baud => exact same.keep ..
  | writeSerial port data => exact same.keep ..
  | sendUsb data index hostToDevice tool => exact same.sendUsb data index hostToDevice tool
  | usbReplyShould operator expected => exact same

/-- Neither does a whole course. -/
theorem sameSettings_course {first : Session} (course : ReflTransGen Next first s) :
    first.SameSettings s := by
  induction course with
  | refl => exact ⟨rfl, rfl, rfl, rfl, rfl, rfl⟩
  | tail _ next ih =>
    cases next with
    | act act => exact ih.perform act
    | goesOn ticks => exact ih.keep ..

end Session

end AcceptanceBench
