import AcceptanceBench.Proofs.Settings
import AcceptanceBench.Proofs.TearDown
import AcceptanceBench.Proofs.WaitMirror
import AcceptanceBench.Step.Usb

/-!
A session seen on its parts: its channels, with the scheduler of their bench, and its USB channel.
Each step of a session is the image of operations of these parts, with the arguments that were given
and the usual ones only where none were, and so is every run; but for the rate of zero, which a
session takes for none.
-/

namespace AcceptanceBench

namespace Answer

/-- The same answer with another view of the states. -/
def map {σ τ : Type} (view : σ → τ) (a : Answer σ) : Answer τ :=
  ⟨view a.before, a.result, view a.after⟩

end Answer

/-- The same answer with another view of the states, also of those met while it waited. -/
def StepAnswer.map {σ τ : Type} (view : σ → τ) (a : StepAnswer σ) : StepAnswer τ :=
  { a.toAnswer.map view with
    waiting := a.waiting.map fun w => ⟨w.elapsed, w.seen, w.events.map (Answer.map view)⟩ }

/-- The parts that a session works on, with what was run. -/
structure Parts where
  registry : Registry
  usb : UsbChannel
  ran : List (List String)

/-- The parts of the session. -/
def Session.parts (s : Session) : Parts := ⟨s.registry, s.usb, s.ran⟩

/-- An operation of a part: of the channels with their scheduler, or of the USB channel. Besides, a
command is run, or an entry is added to the log. -/
inductive PartAct where
  | registry (act : RegistryAct)
  | usb (step : UsbStep)
  | command (args : List String) (output : Except Error String)
  | report (n : Notice)

namespace Parts

/-- The parts with the log changed. -/
def onLog (change : List Notice → List Notice) (p : Parts) : Parts :=
  { p with registry := p.registry.onBench (·.onRack fun r => { r with log := change r.log }) }

/-- Carries out an operation. The USB channel writes to the log of the bench. -/
def perform (act : PartAct) (p : Parts) : Except Error Reply × Parts :=
  match act with
  | .registry act =>
    let (result, registry) := p.registry.perform act
    (result, { p with registry })
  | .usb step =>
    let (result, u) := UsbBench.perform step ⟨p.usb, p.registry.bench.log, p.ran⟩
    (result, { p with usb := u.usb, ran := u.ran }.onLog fun _ => u.log)
  | .command args output =>
    (replyWith .text output,
      { p with ran := p.ran ++ [args] }.onLog (· ++ commandNotices output))
  | .report n => (.ok .nothing, p.onLog (· ++ [n]))

/-- A result that tells only whether it is an error. -/
def quiet (answer : Except Error Reply × Parts) : Except Error Reply × Parts :=
  (answer.1.map fun _ => .nothing, answer.2)

/-- Forgets the USB reply, closes every channel and stops the scheduler. -/
def tearDown (p : Parts) : Except Error Reply × Parts :=
  let (_, p) := p.perform (.usb .reset)
  match p.perform (.registry .closeAll) with
  | (.ok _, p) => p.perform (.registry (.stop Scheduler.joinTimeout))
  | (.error e, p) =>
    let (_, p) := p.perform (.report (.teardownFailed e))
    match p.perform (.registry (.stop Scheduler.joinTimeout)) with
    | (.ok _, p) => (.error e, p)
    | (.error stopError, p) => (.error e, (p.perform (.report (.teardownFailed stopError))).2)

/-- What an act of a session comes to on the parts. The session's settings, which no act changes,
are those of `s`. -/
def follow (s : Session) (act : SessionAct) (p : Parts) : Except Error Reply × Parts :=
  match act with
  | .registry act => p.perform (.registry act)
  | .setUp => p.perform (.registry .start)
  | .enter => (.ok (.flag true), (p.perform (.registry .start)).2)
  | .tearDown => p.tearDown
  | .givenApplication directory process =>
    let args := buildArguments s.buildCommand (Text.Shell.under s.featureDirectory directory)
    let output := runCommand args ("application " ++ directory) process
    (replyWith .text (s.givenApplication directory process).1,
      (p.perform (.command args output)).2)
  | .pause amount unit => (done (s.pause amount unit).1, p)
  | .openSerial port baud =>
    quiet (p.perform (.registry (.openChannel port (baud.getD (.number SerialPort.defaultBaud))
      (.number SerialPort.defaultBits))))
  | .writeSerial port data => quiet (p.perform (.registry (.write port data)))
  | .sendUsb data index hostToDevice tool =>
    let request : UsbRequest :=
      { request := .number UsbRequest.usualRequest, value := .number UsbRequest.usualValue,
        index := index.getD (.number UsbRequest.usualIndex), hostToDevice, payload := data.toBytes }
    p.perform (.usb (.send request tool))
  | .usbReplyShould operator expected =>
    match p.perform (.usb .take) with
    | (.ok (.data reply), p) => (done (expect reply (.text expected) operator), p)
    | (result, p) => (result, p)

/-- A wait on a channel, with the acts of a session as events. -/
def waitFor [Clock] (s : Session) (predicate : Except Error Predicate) (asked : Option ChannelWait)
    (events : List (Scheduled SessionAct)) (p : Parts) : StepAnswer Parts :=
  waitOnChannel registry (fun g p => { p with registry := g }) (fun _ _ => rfl) (follow s) predicate
    asked events p

/-- What a step of a session comes to on the parts. -/
def step [Clock] (s : Session) : SessionStep → Parts → StepAnswer Parts
  | .act act, p => (Answer.ofAct (follow s) act p).asStep
  | .wait rule asked events, p => p.waitFor s (Predicate.make rule) asked events
  | .outputShould none events, p => p.waitFor s (.error .wrongType) none events
  | .outputShould (some check) events, p =>
    p.waitFor s (Predicate.make (.operator check.operator (.text check.expected)))
      (some ⟨check.port, check.timeout.getD s.checkTimeout⟩) events

end Parts

/-- The act does not give zero for the rate. -/
def SessionAct.Rated : SessionAct → Prop
  | .openSerial _ (some baud) => baud.toInt ≠ 0
  | _ => True

/-- Neither the step nor an event while it waits gives zero for the rate. -/
def SessionStep.Rated : SessionStep → Prop
  | .act a => a.Rated
  | .wait _ _ events => ∀ e ∈ events, e.event.Rated
  | .outputShould _ events => ∀ e ∈ events, e.event.Rated

namespace Session

variable {origin s : Session}

theorem parts_noteAll (notices : List Notice) (s : Session) :
    (s.noteAll notices).parts = s.parts.onLog (· ++ notices) := by
  have noted := Bench.foldl_note notices s.registry.bench
  unfold Session.parts noteAll onBench onRegistry Registry.onBench Parts.onLog
  dsimp only
  rw [noted]
  rfl

/-! ### Acts -/

/-- The answer of a session to an act, seen on its parts. -/
def seen (answer : Except Error Reply × Session) : Except Error Reply × Parts :=
  (answer.1, answer.2.parts)

/-- A rate that is given is the channel's, unless it is zero. -/
theorem openSerial_of_rated {port : String} {baud : Option Whole} {later : Registry}
    {opened : Except Error Channel} (rated : (SessionAct.openSerial port baud).Rated)
    (attempt : s.registry.openChannel port (baud.getD (.number SerialPort.defaultBaud))
      (.number SerialPort.defaultBits) = (opened, later)) :
    s.openSerial port baud = (opened.map fun _ => (), { s with registry := later }) := by
  unfold openSerial withRegistry
  cases baud with
  | none =>
    rw [Option.getD_none] at attempt
    dsimp only
    rw [attempt]
  | some n =>
    rw [Option.getD_some] at attempt
    dsimp only
    rw [if_neg rated, attempt]

theorem follow_openSerial {port : String} {baud : Option Whole}
    (rated : (SessionAct.openSerial port baud).Rated) (s : Session) :
    Parts.follow origin (.openSerial port baud) s.parts
      = seen (s.perform (.openSerial port baud)) := by
  rcases attempt : s.registry.openChannel port (baud.getD (.number SerialPort.defaultBaud))
    (.number SerialPort.defaultBits) with ⟨e | c, later⟩
  all_goals
    unfold perform Parts.follow Parts.perform Registry.perform Session.parts
    dsimp only
    rw [attempt, openSerial_of_rated rated attempt]
    rfl

theorem follow_writeSerial (port : String) (data : Data) (s : Session) :
    Parts.follow origin (.writeSerial port data) s.parts
      = seen (s.perform (.writeSerial port data)) := by
  unfold perform writeSerial Parts.follow Parts.perform Registry.perform withRegistry Session.parts
  dsimp only
  rcases s.registry.write port data with ⟨e | n, later⟩ <;> rfl

theorem notices_send (r : UsbRequest) (tool : ToolOutcome) (u : UsbChannel) :
    (u.send r tool).2.notices = u.notices := by
  funext result
  unfold UsbChannel.notices
  rw [(tool_send r tool u).2]

theorem follow_sendUsb (data : Data) (index : Option Whole) (hostToDevice : Bool)
    (tool : ToolOutcome) (s : Session) :
    Parts.follow origin (.sendUsb data index hostToDevice tool) s.parts
      = seen (s.perform (.sendUsb data index hostToDevice tool)) := by
  unfold perform sendUsb seen
  dsimp only
  rw [parts_noteAll, notices_send]
  rfl

theorem follow_usbReplyShould (operator expected : String) (s : Session) :
    Parts.follow origin (.usbReplyShould operator expected) s.parts
      = seen (s.perform (.usbReplyShould operator expected)) := by
  unfold perform usbReplyShould Parts.follow Parts.perform UsbBench.perform Session.parts
  dsimp only
  cases s.usb.take with
  | error e => rfl
  | ok reply => rfl

theorem perform_report (n : Notice) (s : Session) :
    s.parts.perform (.report n) = (.ok .nothing, (s.noteAll [n]).parts) := by
  rw [parts_noteAll]
  rfl

theorem perform_stop (timeout : Numeral) (s : Session) :
    s.parts.perform (.registry (.stop timeout))
      = (done (s.withBench (Bench.stop timeout)).1, (s.withBench (Bench.stop timeout)).2.parts) :=
  rfl

theorem follow_tearDown (s : Session) :
    Parts.follow origin .tearDown s.parts = seen (s.perform .tearDown) := by
  have reset : s.parts.perform (.usb .reset)
      = (.ok .nothing, { s with usb := s.usb.reset }.parts) := rfl
  have closed : Parts.perform (.registry .closeAll) { s with usb := s.usb.reset }.parts
      = (done s.registry.closeAll.1, s.shut.parts) := rfl
  unfold perform leave tearDown Parts.follow Parts.tearDown
  rw [reset]
  dsimp only
  rw [closed]
  unfold shut withRegistry
  dsimp only
  rcases s.registry.closeAll with ⟨e | _, g⟩
  · dsimp only [done, replyWith]
    rw [perform_report]
    dsimp only
    rw [perform_stop]
    rcases Session.withBench (Bench.stop Scheduler.joinTimeout)
      (noteAll [.teardownFailed e] { s with registry := g, usb := s.usb.reset })
        with ⟨e' | _, later⟩
    · dsimp only [done, replyWith]
      rw [perform_report]
      rfl
    · rfl
  · dsimp only [done, replyWith]
    rw [perform_stop]
    rcases Session.withBench (Bench.stop Scheduler.joinTimeout)
      { s with registry := g, usb := s.usb.reset } with ⟨e' | _, later⟩ <;> rfl

theorem follow_givenApplication (same : origin.SameSettings s) (directory : String)
    (process : Execution) :
    Parts.follow origin (.givenApplication directory process) s.parts
      = seen (s.perform (.givenApplication directory process)) := by
  unfold Parts.follow perform givenApplication
  dsimp only
  rw [same.buildCommand, same.featureDirectory, same.bootDelay]
  generalize buildArguments _ _ = args
  generalize runCommand args _ process = output
  have noted := parts_noteAll (commandNotices output) { s with ran := s.ran ++ [args] }
  cases output with
  | error e => exact Prod.ext rfl noted.symm
  | ok text =>
    dsimp only
    split
    · exact Prod.ext rfl noted.symm
    · split
      · exact Prod.ext rfl noted.symm
      · exact Prod.ext rfl noted.symm

theorem follow_pause (amount : Amount) (unit : String) (s : Session) :
    Parts.follow origin (.pause amount unit) s.parts
      = seen (s.perform (.pause amount unit)) := by
  unfold Parts.follow perform pause
  dsimp only
  cases unitScale? unit with
  | none => rfl
  | some scale =>
    dsimp only
    cases amount.read with
    | error e => rfl
    | ok x =>
      dsimp only
      split
      · rfl
      · rfl

/-- Every act of a session is the image of operations of its parts. -/
theorem follow_eq (same : origin.SameSettings s) {act : SessionAct} (rated : act.Rated) :
    Parts.follow origin act s.parts = seen (s.perform act) := by
  cases act with
  | registry act => rfl
  | setUp => rfl
  | tearDown => exact follow_tearDown s
  | enter => rfl
  | givenApplication directory process => exact follow_givenApplication same directory process
  | pause amount unit => exact follow_pause amount unit s
  | openSerial port baud => exact follow_openSerial rated s
  | writeSerial port data => exact follow_writeSerial port data s
  | sendUsb data index hostToDevice tool => exact follow_sendUsb data index hostToDevice tool s
  | usbReplyShould operator expected => exact follow_usbReplyShould operator expected s

/-! ### Steps and runs -/

/-- The parts are those of a session with the settings of another one. -/
def Shows (origin : Session) (s : Session) (p : Parts) : Prop :=
  p = s.parts ∧ origin.SameSettings s

/-- A wait of a session goes as the wait on its parts. -/
theorem mirrors_parts (origin : Session) :
    ChannelMirrors registry (fun g s => { s with registry := g }) perform Parts.registry
      (fun g p => { p with registry := g }) (Parts.follow origin) id SessionAct.Rated origin.Shows
      fun a m => a.map parts = m := by
  constructor
  case registries =>
    rintro s p ⟨rfl, -⟩
    exact ⟨fun name => rfl, fun index => rfl⟩
  case settles =>
    rintro s p ⟨rfl, same⟩
    exact ⟨rfl, same.keep ..⟩
  case notes =>
    rintro notices s p ⟨rfl, same⟩
    exact ⟨rfl, same.keep ..⟩
  case acts =>
    rintro act s p rated ⟨rfl, same⟩
    have followed := follow_eq same rated
    refine ⟨?_, congrArg Prod.snd followed, same.perform act⟩
    unfold Answer.ofAct
    rw [followed]
    rfl

theorem waiting_eq {w : Option (Waiting Session)} {w' : Option (Waiting Parts)}
    (mirrors : Option.Rel (Waiting.Mirrors fun a m => a.map parts = m) w w') :
    w.map (fun w => ⟨w.elapsed, w.seen, w.events.map (Answer.map parts)⟩) = w' := by
  cases mirrors with
  | none => rfl
  | @some w w' mirrors =>
    obtain ⟨elapsed, seen, events⟩ := mirrors
    rw [← List.forall₂_map_left_iff, List.forall₂_eq_eq_eq] at events
    rw [Option.map_some, events, ← elapsed, ← seen]

theorem map_waitFor [Clock] (same : origin.SameSettings s) (predicate : Except Error Predicate)
    (asked : Option ChannelWait) {events : List (Scheduled SessionAct)}
    (rated : ∀ e ∈ events, e.event.Rated) :
    (s.waitFor predicate asked events).map parts = s.parts.waitFor origin predicate asked events
      ∧ origin.SameSettings (s.waitFor predicate asked events).after := by
  obtain ⟨result, ⟨after, settings⟩, waiting⟩ := mirrors_waitOnChannel (mirrors_parts origin)
    (fun _ _ => rfl) (fun _ _ => rfl) predicate asked rated (s := s) ⟨rfl, same⟩
  have before : (s.waitFor predicate asked events).before = s :=
    before_waitOnChannel _ predicate asked events s
  have before' : (s.parts.waitFor origin predicate asked events).before = s.parts :=
    before_waitOnChannel _ predicate asked events s.parts
  refine ⟨?_, settings⟩
  change StepAnswer.mk ⟨(s.waitFor predicate asked events).before.parts, _, _⟩ _ = StepAnswer.mk
    ⟨(s.parts.waitFor origin predicate asked events).before, _, _⟩ _
  rw [before, before']
  exact congr (congrArg _ (congr (congrArg _ result.symm) after.symm)) (waiting_eq waiting)

theorem map_step [Clock] (same : origin.SameSettings s) {step : SessionStep} (rated : step.Rated) :
    (s.step step).map parts = s.parts.step origin step
      ∧ origin.SameSettings (s.step step).after := by
  cases step with
  | act act =>
    have followed := follow_eq same rated
    refine ⟨?_, same.perform act⟩
    unfold Parts.step Answer.ofAct
    dsimp only
    rw [followed]
    rfl
  | wait rule asked events => exact map_waitFor same _ asked rated
  | outputShould check events =>
    cases check with
    | none => exact map_waitFor same _ none rated
    | some check =>
      simp only [Session.step, Parts.step, ← same.checkTimeout]
      exact map_waitFor same _ _ rated

theorem map_runSteps [Clock] {steps : List SessionStep} (rated : ∀ step ∈ steps, step.Rated)
    (same : origin.SameSettings s) :
    (runSteps Session.step steps s).map (StepAnswer.map parts)
      = runSteps (Parts.step origin) steps s.parts := by
  induction steps generalizing s with
  | nil => rfl
  | cons step rest ih =>
    obtain ⟨answer, settings⟩ := map_step same (rated step List.mem_cons_self)
    have others : ∀ step ∈ rest, step.Rated :=
      fun step there => rated step (List.mem_cons_of_mem _ there)
    unfold runSteps
    dsimp only
    rw [List.map_cons, answer, ih others settings, ← answer]
    rfl

/-- Every run of a session, seen on its parts, is the run of its parts on the images of the steps,
where no step gives zero for the rate. -/
theorem parts_run [Clock] (s : Session) {steps : List SessionStep}
    (rated : ∀ step ∈ steps, step.Rated) :
    (s.run steps).map (StepAnswer.map parts) = runSteps (Parts.step s) steps s.parts :=
  map_runSteps rated ⟨rfl, rfl, rfl, rfl, rfl, rfl⟩

/-- A rate is given to one channel and none to the other one, which is opened while a check waits.
The time limit and the index are zero. -/
def explicitSteps : List SessionStep :=
  [.act .setUp, .act (.openSerial "Serial" (some 115200)), .act (.writeSerial "Serial" (.text "")),
    .outputShould (some ⟨"Serial", "contain", "ready", some (.whole 0)⟩)
      [⟨0, .openSerial "Serial1" none⟩],
    .act (.sendUsb (.text "on") (some 0) false ⟨.quiet, .ok ""⟩),
    .act (.usbReplyShould "equal" "on"), .act .tearDown]

theorem parts_run_explicit :
    letI : Clock := .threads
    (∀ step ∈ explicitSteps, step.Rated)
    ∧ (onTwoPorts.run explicitSteps).map (StepAnswer.map parts)
      = runSteps (Parts.step onTwoPorts) explicitSteps onTwoPorts.parts := by
  let _ : Clock := .threads
  have rated : ∀ step ∈ explicitSteps, step.Rated := by
    simp [explicitSteps, SessionStep.Rated, SessionAct.Rated, Whole.toInt]
  exact ⟨rated, onTwoPorts.parts_run rated⟩

/-- A rate of zero is no rate for the channels, and the usual one for a session. -/
theorem not_parts_run_of_zero :
    letI : Clock := .threads
    ¬ ∀ (s : Session) (steps : List SessionStep), s.Reached →
    (s.run steps).map (StepAnswer.map parts) = runSteps (Parts.step s) steps s.parts := by
  let _ : Clock := .threads
  intro all
  have same := all onTwoPorts [.act .setUp, .act (.openSerial "Serial" (some 0))]
    (reached_of_isNew ⟨⟨_, _, _, _, rfl⟩, rfl⟩)
  have differ : ((onTwoPorts.run [.act .setUp, .act (.openSerial "Serial" (some 0))]).map
      (StepAnswer.map parts)).map (·.result.toOption.isSome)
    ≠ (runSteps (Parts.step onTwoPorts) [.act .setUp, .act (.openSerial "Serial" (some 0))]
      onTwoPorts.parts).map (·.result.toOption.isSome) := by decide +kernel
  exact differ (congrArg _ same)

end Session

end AcceptanceBench
