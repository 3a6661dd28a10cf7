import AcceptanceBench.Proofs.PastChannels
import AcceptanceBench.Proofs.Settings
import AcceptanceBench.Proofs.TearDown

/-!
A session that was torn down is as good as new. Everything that it has left behind is a past that
the next scenario goes on above, where every step comes to what it comes to in a new session, but
for the ids of the subscriptions.
-/

namespace AcceptanceBench

open Relation (ReflTransGen)

namespace Past

open Session

variable {p : Past} {s s' : Session}

/-- A session above the past: its channels are, and what was run and slept comes after what the past
has run and slept. -/
inductive Carries (p : Past) (s : Session) : Session → Prop
  | above {g : Registry} (above : p.Above s.registry g) :
      Carries p s { s with registry := g, ran := p.ran ++ s.ran, slept := p.slept ++ s.slept }

theorem Carries.registry (carries : p.Carries s s') : p.Above s.registry s'.registry := by
  cases carries with
  | above above => exact above

theorem Carries.put (carries : p.Carries s s') {g g' : Registry} (above : p.Above g g') :
    p.Carries { s with registry := g } { s' with registry := g' } := by
  cases carries with
  | above => exact .above (s := { s with registry := g }) above

theorem Carries.putUsb (carries : p.Carries s s') (usb : UsbChannel) :
    p.Carries { s with usb } { s' with usb } := by
  cases carries with
  | above above => exact .above (s := { s with usb }) above

theorem Carries.run (carries : p.Carries s s') (args : List String) :
    p.Carries { s with ran := s.ran ++ [args] } { s' with ran := s'.ran ++ [args] } := by
  cases carries with
  | above above =>
    rw [List.append_assoc]
    exact .above (s := { s with ran := s.ran ++ [args] }) above

theorem Carries.sleep (carries : p.Carries s s') (seconds : Binary64) :
    p.Carries { s with slept := s.slept ++ [seconds] }
      { s' with slept := s'.slept ++ [seconds] } := by
  cases carries with
  | above above =>
    rw [List.append_assoc]
    exact .above (s := { s with slept := s.slept ++ [seconds] }) above

theorem Carries.noteAll (carries : p.Carries s s') (notices : List Notice) :
    p.Carries (s.noteAll notices) (s'.noteAll notices) := by
  have noted := carries.registry.onBench (buffered_notes carries.registry.buffered notices)
  rw [← notes_onto, ← carries.registry.bench] at noted
  exact carries.put noted

theorem Carries.setUp (carries : p.Carries s s') : p.Carries s.setUp s'.setUp := by
  have started := carries.registry.onBench (buffered_start carries.registry.buffered)
  rw [← start_onto carries.registry.buffered, ← carries.registry.bench] at started
  exact carries.put started

/-! ### The end -/

theorem Carries.stop (carries : p.Carries s s') (timeout : Numeral) :
    (s'.withBench (Bench.stop timeout)).1 = (s.withBench (Bench.stop timeout)).1
      ∧ p.Carries (s.withBench (Bench.stop timeout)).2 (s'.withBench (Bench.stop timeout)).2 := by
  have same := p.stop_onto timeout s.registry.bench
  have stopped := carries.registry.onBench (buffered_stop carries.registry.buffered timeout)
  rw [← carries.registry.bench] at same
  unfold withBench bench
  rw [same]
  exact ⟨rfl, carries.put stopped⟩

theorem Carries.tearDown (carries : p.Carries s s') :
    s'.tearDown.1 = s.tearDown.1 ∧ p.Carries s.tearDown.2 s'.tearDown.2 := by
  have usb : s'.usb = s.usb := by
    cases carries with
    | above => rfl
  obtain ⟨result, above⟩ := carries.registry.closeAll
  have shut := (carries.putUsb s.usb.reset).put above
  unfold Session.tearDown withRegistry
  dsimp only
  rw [usb]
  rcases closed : s.registry.closeAll with ⟨e | _, g⟩ <;> rw [closed] at result above shut
  · rcases closed' : s'.registry.closeAll with ⟨_, g'⟩
    rw [closed'] at result shut
    subst result
    dsimp only at shut ⊢
    obtain ⟨same, stopped⟩ := (shut.noteAll [.teardownFailed e]).stop Scheduler.joinTimeout
    rw [same]
    split
    · exact ⟨rfl, stopped⟩
    · exact ⟨rfl, stopped.noteAll _⟩
  · rcases closed' : s'.registry.closeAll with ⟨_, g'⟩
    rw [closed'] at result shut
    subst result
    exact shut.stop Scheduler.joinTimeout

theorem Carries.leave {α : Type} (carries : p.Carries s s') (result : Except Error α) :
    (s'.leave result).1 = (s.leave result).1
      ∧ p.Carries (s.leave result).2 (s'.leave result).2 := by
  obtain ⟨error, torn⟩ := carries.tearDown
  obtain ⟨after, seen⟩ := leave_after result s
  obtain ⟨after', seen'⟩ := leave_after result s'
  rw [seen, seen', after, after', error]
  exact ⟨rfl, torn⟩

/-! ### Acts -/

theorem Carries.givenApplication (carries : p.Carries s s') (directory : String)
    (process : Execution) :
    (s'.givenApplication directory process).1 = (s.givenApplication directory process).1
      ∧ p.Carries (s.givenApplication directory process).2
        (s'.givenApplication directory process).2 := by
  cases carries with
  | above above =>
    let args := buildArguments s.buildCommand (Text.Shell.under s.featureDirectory directory)
    let output := runCommand args ("application " ++ directory) process
    have ran := ((Carries.above above).run args).noteAll (commandNotices output)
    unfold Session.givenApplication
    dsimp only
    split
    · exact ⟨rfl, ran⟩
    · split
      · exact ⟨rfl, ran⟩
      · split
        · exact ⟨rfl, ran⟩
        · exact ⟨rfl, ran.sleep _⟩

theorem Carries.pause (carries : p.Carries s s') (amount : Amount) (unit : String) :
    (s'.pause amount unit).1 = (s.pause amount unit).1
      ∧ p.Carries (s.pause amount unit).2 (s'.pause amount unit).2 := by
  unfold Session.pause
  cases unitScale? unit with
  | none => exact ⟨rfl, carries⟩
  | some scale =>
    dsimp only
    cases amount.read with
    | error e => exact ⟨rfl, carries⟩
    | ok x =>
      dsimp only
      split
      · exact ⟨rfl, carries⟩
      · exact ⟨rfl, carries.sleep _⟩

theorem Carries.openSerial (carries : p.Carries s s') (port : String) (baud : Option Whole) :
    (s'.openSerial port baud).1 = (s.openSerial port baud).1
      ∧ p.Carries (s.openSerial port baud).2 (s'.openSerial port baud).2 := by
  have attempt (rate : Whole) :
      let bits := .number SerialPort.defaultBits
      (s'.registry.openChannel port rate bits).1.map (fun _ => ())
          = (s.registry.openChannel port rate bits).1.map (fun _ => ())
        ∧ p.Carries { s with registry := (s.registry.openChannel port rate bits).2 }
          { s' with registry := (s'.registry.openChannel port rate bits).2 } := by
    obtain ⟨result, opened⟩ :=
      carries.registry.openChannel port rate (.number SerialPort.defaultBits)
    refine ⟨?_, carries.put opened⟩
    rw [result]
    cases (s.registry.openChannel port rate (.number SerialPort.defaultBits)).1 <;> rfl
  exact attempt _

theorem Carries.writeSerial (carries : p.Carries s s') (port : String) (data : Data) :
    (s'.writeSerial port data).1 = (s.writeSerial port data).1
      ∧ p.Carries (s.writeSerial port data).2 (s'.writeSerial port data).2 := by
  obtain ⟨result, written⟩ := carries.registry.write port data
  unfold Session.writeSerial withRegistry
  dsimp only
  rw [result]
  exact ⟨rfl, carries.put written⟩

theorem Carries.sendUsb (carries : p.Carries s s') (data : Data) (index : Option Whole)
    (hostToDevice : Bool) (tool : ToolOutcome) :
    (s'.sendUsb data index hostToDevice tool).1 = (s.sendUsb data index hostToDevice tool).1
      ∧ p.Carries (s.sendUsb data index hostToDevice tool).2
        (s'.sendUsb data index hostToDevice tool).2 := by
  let request : UsbRequest :=
    { request := .number UsbRequest.usualRequest, value := .number UsbRequest.usualValue,
      index := index.getD (.number UsbRequest.usualIndex), hostToDevice, payload := data.toBytes }
  let sent := s.usb.send request tool
  have noted := ((carries.putUsb sent.2).run (s.usb.call request)).noteAll (sent.2.notices sent.1)
  cases carries with
  | above above => exact ⟨rfl, noted⟩

/-- Every act answers the same but for the ids, unless it looks at what only the past may know. -/
theorem Carries.perform (carries : p.Carries s s') (act : SessionAct) :
    ((s'.perform act).1 = (s.perform act).1.map p.reply
        ∨ ∃ asked, act = .registry asked ∧ s.registry.LooksBack asked)
      ∧ p.Carries (s.perform act).2 (s'.perform act).2 := by
  cases act with
  | registry act =>
    obtain ⟨result, performed⟩ := carries.registry.perform act
    exact ⟨result.imp_right fun looks => ⟨act, rfl, looks⟩, carries.put performed⟩
  | setUp => exact ⟨Or.inl rfl, carries.setUp⟩
  | enter => exact ⟨Or.inl rfl, carries.setUp⟩
  | tearDown =>
    obtain ⟨result, torn⟩ := carries.leave (.ok Reply.nothing)
    refine ⟨Or.inl (result.trans ?_), torn⟩
    change (s.leave (.ok Reply.nothing)).1 = (s.leave (.ok Reply.nothing)).1.map p.reply
    rw [(leave_after (.ok Reply.nothing) s).2]
    cases s.tearDown.1 <;> rfl
  | givenApplication directory process =>
    obtain ⟨result, ran⟩ := carries.givenApplication directory process
    exact ⟨Or.inl (p.replyWith_eq (fun _ => rfl) result), ran⟩
  | pause amount unit =>
    obtain ⟨result, slept⟩ := carries.pause amount unit
    exact ⟨Or.inl (p.replyWith_eq (fun _ => rfl) result), slept⟩
  | openSerial port baud =>
    obtain ⟨result, opened⟩ := carries.openSerial port baud
    exact ⟨Or.inl (p.replyWith_eq (fun _ => rfl) result), opened⟩
  | writeSerial port data =>
    obtain ⟨result, written⟩ := carries.writeSerial port data
    exact ⟨Or.inl (p.replyWith_eq (fun _ => rfl) result), written⟩
  | sendUsb data index hostToDevice tool =>
    obtain ⟨result, sent⟩ := carries.sendUsb data index hostToDevice tool
    exact ⟨Or.inl (p.replyWith_eq (fun _ => rfl) result), sent⟩
  | usbReplyShould operator expected =>
    refine ⟨Or.inl (p.replyWith_eq (fun _ => rfl) ?_), carries⟩
    cases carries with
    | above => rfl

end Past

/-! ### Steps and runs -/

/-- Two answers to one act, which looks at what only the past of the second session may know. -/
def Answer.LookBack (a a' : Answer Session) : Prop :=
  ∃ act, a.before.registry.LooksBack act ∧ a = .ofAct Session.perform (.registry act) a.before
    ∧ a' = .ofAct Session.perform (.registry act) a'.before

/-- The second answer tells what the first one tells, but for the ids, unless both are to an act
that looks at what only the past may know; and it leaves behind the same above the past. -/
structure Answer.Renews (p : Past) (a a' : Answer Session) : Prop where
  result : a'.result = a.result.map p.reply ∨ a.LookBack a'
  after : p.Carries a.after a'.after

/-- So do the answers of two steps, which have waited alike. -/
structure StepAnswer.Renews (p : Past) (a a' : StepAnswer Session) : Prop
    extends Answer.Renews p a.toAnswer a'.toAnswer where
  waiting : Option.Rel (Waiting.Mirrors (Answer.Renews p)) a.waiting a'.waiting

namespace Session

variable {p : Past} {s s' : Session}

theorem renews_act (carries : p.Carries s s') (act : SessionAct) :
    (Answer.ofAct perform act s).Renews p (.ofAct perform act s') := by
  obtain ⟨result, performed⟩ := carries.perform act
  refine ⟨result.imp_right ?_, performed⟩
  rintro ⟨asked, rfl, looks⟩
  exact ⟨asked, looks, rfl, rfl⟩

theorem mirrors_carries (p : Past) :
    ChannelMirrors registry (fun g s => { s with registry := g }) perform registry
      (fun g s => { s with registry := g }) perform (p.buffers.length + ·) (fun _ => True) p.Carries
      (Answer.Renews p) := by
  constructor
  case registries =>
    intro s s' carries
    exact carries.registry.mirrors
  case settles =>
    intro s s' carries
    have settled := carries.registry.onBench (Past.buffered_settle carries.registry.buffered)
    rw [← Past.settle_onto carries.registry.buffered, ← carries.registry.bench] at settled
    exact carries.put settled
  case notes =>
    intro notices s s' carries
    exact carries.noteAll notices
  case acts =>
    intro act s s' _ carries
    have answer := renews_act carries act
    exact ⟨answer, answer.after⟩

/-- A wait on a channel answers with data, if it does not fail. -/
theorem data_waitFor [Clock] (predicate : Except Error Predicate) (asked : Option ChannelWait)
    (events : List (Scheduled SessionAct)) (s : Session) :
    ∃ outcome, (s.waitFor predicate asked events).result = replyWith .data outcome := by
  unfold waitFor waitOnChannel
  dsimp only
  split
  · exact ⟨.error _, rfl⟩
  · exact ⟨.error _, rfl⟩
  · split
    · exact ⟨.error _, rfl⟩
    · exact ⟨_, rfl⟩

theorem renews_waitFor [Clock] (carries : p.Carries s s') (predicate : Except Error Predicate)
    (asked : Option ChannelWait) (events : List (Scheduled SessionAct)) :
    (s.waitFor predicate asked events).Renews p (s'.waitFor predicate asked events) := by
  obtain ⟨result, after, waiting⟩ := mirrors_waitOnChannel (mirrors_carries p) (fun _ _ => rfl)
    (fun _ _ => rfl) predicate asked (fun e (_ : e ∈ events) => trivial) carries
  obtain ⟨outcome, told⟩ := data_waitFor predicate asked events s
  have same : replyWith .data outcome = (replyWith .data outcome).map p.reply :=
    p.replyWith_eq (fun _ => rfl) rfl
  rw [← told] at same
  exact ⟨⟨Or.inl (result.trans same), after⟩, waiting⟩

theorem renews_step [Clock] (carries : p.Carries s s') (step : SessionStep) :
    (s.step step).Renews p (s'.step step) := by
  cases step with
  | act act => exact ⟨renews_act carries act, .none⟩
  | wait rule asked events => exact renews_waitFor carries _ asked events
  | outputShould check events =>
    cases check with
    | none => exact renews_waitFor carries _ none events
    | some check =>
      have same : s'.checkTimeout = s.checkTimeout := by
        cases carries with
        | above => rfl
      unfold Session.step
      dsimp only
      rw [same]
      exact renews_waitFor carries _ _ events

theorem renews_runSteps [Clock] (carries : p.Carries s s') (steps : List SessionStep) :
    List.Forall₂ (StepAnswer.Renews p) (runSteps Session.step steps s)
      (runSteps Session.step steps s') := by
  induction steps generalizing s s' with
  | nil => exact .nil
  | cons step rest ih =>
    have answer := renews_step carries step
    exact .cons answer (ih answer.after)

/-! ### The next scenario -/

/-- The session as it was made, over the devices of a bench. -/
def remade (b : Bench) (first : Session) : Session :=
  { first with
    registry := first.registry.onBench fun made =>
      { made with devices := b.devices, ports := b.ports, stuck := b.stuck }
    ran := []
    slept := [] }

/-- What the session leaves behind. A new scheduler gives out ids from one on. -/
def past (s : Session) : Past where
  ids := s.bench.scheduler.nextId - 1
  buffers := s.bench.buffers
  listeners := s.bench.listeners
  handles := s.bench.handles
  log := s.bench.log
  readings := s.bench.readings
  deliveries := s.bench.deliveries
  ran := s.ran
  slept := s.slept

/-- A bench whose scheduler was never started, with the settings and over the devices of another
one. -/
def newBench (b : Bench) : Bench :=
  { Bench.make b.ports (.stopped b.scheduler.interval b.scheduler.threadName) with
    devices := b.devices, stuck := b.stuck }

/-- Above what it has left behind, an idle bench starts as a new one does. -/
theorem start_onto_past {torn : Session} (idle : torn.bench.scheduler.subscriptions = [])
    (still : torn.bench.scheduler.isRunning = false) (ids : 1 ≤ torn.bench.scheduler.nextId) :
    torn.bench.start = torn.past.onto (newBench torn.bench).start := by
  have next : torn.past.ids + 1 = torn.bench.scheduler.nextId := Nat.sub_add_cancel ids
  rw [Bench.start_eq_of_idle idle still, Bench.start_eq_of_idle (b := newBench torn.bench) rfl rfl]
  unfold Past.onto Past.scheduler Bench.onScheduler newBench Bench.make Scheduler.stopped Rack.under
    Rack.empty
  dsimp only
  rw [next, idle]
  simp only [past, List.append_nil, List.map_nil]

/-- A new session has no channels, and a scheduler that was never started. -/
theorem registry_remade {first : Session} (new : first.IsNew) {torn : Session}
    (settings : torn.registry.settings = first.registry.settings) :
    (first.remade torn.bench).registry = .make (some torn.registry.channels) torn.registry.environ
      torn.registry.serial (newBench torn.bench) := by
  obtain ⟨⟨channels, environ, serial, ports, made⟩, -⟩ := new
  rw [made] at settings
  obtain ⟨channels', settings⟩ := Prod.mk.inj settings
  obtain ⟨environ', settings⟩ := Prod.mk.inj settings
  obtain ⟨serial', settings⟩ := Prod.mk.inj settings
  obtain ⟨interval, threadName⟩ := Prod.mk.inj settings
  unfold remade newBench
  dsimp only
  rw [made, channels', environ', serial']
  change _ = Registry.make _ _ _ { Bench.make torn.bench.ports (.stopped
    torn.registry.bench.scheduler.interval torn.registry.bench.scheduler.threadName) with
      devices := torn.bench.devices, stuck := torn.bench.stuck }
  rw [interval, threadName]
  rfl

theorem usb_remade {first torn : Session} (new : first.IsNew) (same : first.SameSettings torn)
    (reply : torn.usb.reply = none) : torn.usb = first.usb := by
  have parts (u : UsbChannel) : u = ⟨u.command, u.runner, u.reply⟩ := rfl
  rw [parts torn.usb, parts first.usb, same.command, same.runner, reply, new.2]

/-- A session that was torn down while its thread was not stuck goes on, once it is set up again,
above its past. -/
theorem carries_setUp {first : Session} (new : first.IsNew) (course : ReflTransGen Next first s)
    (ends : s.bench.hangs = false) :
    s.tearDown.2.past.Carries (first.remade s.tearDown.2.bench).setUp s.tearDown.2.setUp := by
  have reached : s.Reached := ⟨first, new, course⟩
  obtain ⟨-, -, running, opened, reply⟩ := tearDown_spec reached.scene.balanced.held
  have idle := reached.tearDown_clears.1
  have still : s.tearDown.2.bench.scheduler.isRunning = false := running.trans ends
  have onward : ReflTransGen Next first s.tearDown.2 :=
    course.tail (perform_tearDown s ▸ Next.act .tearDown)
  generalize s.tearDown.2 = torn at opened reply idle still onward ⊢
  have scenes := course_scenes onward
  have same := sameSettings_course onward
  have usb := usb_remade new same reply
  have made := registry_remade new scenes.settings
  have ids : 1 ≤ torn.bench.scheduler.nextId := by
    obtain ⟨later, -⟩ := (reached_of_isNew new).scene.opened_since scenes
    obtain ⟨⟨channels, environ, serial, ports, first⟩, -⟩ := new
    rw [first] at later
    exact later
  have above : torn.past.Above (first.remade torn.bench).setUp.registry torn.setUp.registry := by
    change torn.past.Above ((first.remade torn.bench).registry.onBench Bench.start) _
    rw [made]
    refine ⟨rfl, rfl, rfl, opened, ?_, start_onto_past idle still ids, ?_⟩
    · intro name index last
      cases last
    · exact Past.buffered_start fun s there => absurd there List.not_mem_nil
  have rest : torn.setUp = { (first.remade torn.bench).setUp with
      registry := torn.setUp.registry
      ran := torn.past.ran ++ (first.remade torn.bench).setUp.ran
      slept := torn.past.slept ++ (first.remade torn.bench).setUp.slept } := by
    unfold setUp onBench onRegistry remade past
    simp only [List.append_nil, ← usb, ← same.featureDirectory, ← same.buildCommand,
      ← same.bootDelay, ← same.checkTimeout]
  rw [rest]
  exact .above above

/-- A torn-down session is as good as new. Whatever it has gone through, and whether a channel
failed to close or not, if its thread was not stuck then every scenario that is run on it afterwards
answers what it answers on a session newly made from the same arguments over the same devices: the
same results, log entries, deliveries and effects on the devices, above all that the earlier course
has left behind. -/
theorem run_tearDown [Clock] {first : Session} (new : first.IsNew)
    (course : ReflTransGen Next first s) (ends : s.bench.hangs = false) {begin : SessionAct}
    (begins : begin = .setUp ∨ begin = .enter)
    (steps : List SessionStep) :
    List.Forall₂ (StepAnswer.Renews s.tearDown.2.past)
      ((first.remade s.tearDown.2.bench).run (.act begin :: steps))
      (s.tearDown.2.run (.act begin :: steps)) := by
  have carries := carries_setUp new course ends
  have rest := renews_runSteps carries steps
  rcases begins with rfl | rfl
  · exact .cons ⟨⟨Or.inl rfl, carries⟩, .none⟩ rest
  · exact .cons ⟨⟨Or.inl rfl, carries⟩, .none⟩ rest

/-- One of the two channels is going to fail to close. -/
def jammed : Session :=
  inOrder.performAll [.registry (.device (.setFault "/dev/a" .close (some ⟨.runtime, "jammed"⟩)))]

/-- The next scenario opens the channel again and waits for what arrives meanwhile. -/
def nextScenario : List SessionStep :=
  [.act (.openSerial "Serial" none),
    .outputShould (some ⟨"Serial", "contain", "ok", none⟩)
      [⟨1, .registry (.device (.feed "/dev/a" [[111, 107]]))⟩],
    .act .tearDown]

theorem run_tearDown_jammed :
    letI : Clock := .threads
    jammed.tearDown.1.toOption = none
    ∧ List.Forall₂ (StepAnswer.Renews jammed.tearDown.2.past)
      ((onTwoPorts.remade jammed.tearDown.2.bench).run (.act .setUp :: nextScenario))
      (jammed.tearDown.2.run (.act .setUp :: nextScenario)) := by
  let _ : Clock := .threads
  have new : onTwoPorts.IsNew := ⟨⟨_, _, _, _, rfl⟩, rfl⟩
  have course : ReflTransGen Next onTwoPorts jammed :=
    (course_performAll onTwoPorts _).trans (course_performAll inOrder _)
  exact ⟨by decide +kernel, run_tearDown new course (by decide +kernel) (Or.inl rfl) nextScenario⟩

end Session

end AcceptanceBench
