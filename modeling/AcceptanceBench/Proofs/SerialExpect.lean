import AcceptanceBench.CommandLine.Run
import AcceptanceBench.Proofs.Stop
import AcceptanceBench.Proofs.WaitError

/-!
The command that checks the output of a serial port. It ends with an exit code and leaves nothing
open where every error on the way is one of the bench's own. Any other error ends it without a code:
a pattern that cannot be matched, a time limit that the clock cannot sleep for, or a fault that the
device raises when it is opened or written to and that its port does not report as a failure of the
system.
-/

namespace AcceptanceBench.CommandLine

/-- Nothing was done on the bench yet but acts on its devices. -/
def World.Untouched (w : World) : Prop :=
  ∃ (ports : List Port) (acts : List DeviceAct),
    w.bench = acts.foldl (fun b act => (b.perform act).2) (.make ports .usual)

/-- The channels of a command, once the scheduler was started. -/
def World.started (w : World) : Registry :=
  .make none w.environ true w.bench.start

variable {w : World}

theorem reached_untouched (untouched : w.Untouched) :
    Scene.Reached ⟨.make none w.environ true w.bench, []⟩ := by
  obtain ⟨ports, acts, prepared⟩ := untouched
  have begins : Scene.Reached ⟨.make none w.environ true (.make ports .usual), []⟩ :=
    Scene.reached_make ..
  rw [prepared]
  clear prepared
  generalize Bench.make ports .usual = b at begins ⊢
  induction acts generalizing b with
  | nil => exact begins
  | cons act rest ih => exact ih _ (begins.perform (.device act))

theorem reached_started (untouched : w.Untouched) : Scene.Reached ⟨w.started, []⟩ :=
  (reached_untouched untouched).perform .start

theorem started_spec (untouched : w.Untouched) :
    w.started.bench.scheduler.isRunning = true
      ∧ w.bench.toRack.SameFaults w.started.bench.toRack := by
  obtain ⟨running, devices⟩ := Bench.start_of_idle ((reached_untouched untouched).idle rfl)
  exact ⟨running, fun endpoint => congrArg Device.fault (Rack.device_congr devices endpoint)⟩

/-! ### The scenes of a check -/

variable {g : Registry}

theorem reached_waitFor [Clock] (reached : Scene.Reached ⟨g, []⟩)
    (predicate : Except Error Predicate) (wait : ChannelWait)
    (events : List (Scheduled DeviceAct)) :
    Scene.Reached ⟨(g.waitFor (fun act g => g.perform (.device act)) predicate (some wait)
      events).after, []⟩ := by
  have acts (past : List (Answer Registry)) (act : DeviceAct) (g : Registry)
      (reached : Scene.Reached ⟨g, []⟩) : Scene.Reached ⟨(g.perform (.device act)).2, []⟩ :=
    reached.perform (.device act)
  have goesOn (past : List (Answer Registry)) (g : Registry) (later : Bench)
      (reached : Scene.Reached ⟨g, []⟩) (ticks : Moment.Ticks ⟨g.bench, []⟩ ⟨later, []⟩) :
      Scene.Reached ⟨{ g with bench := later }, []⟩ :=
    reached.course (Scene.course_ticks ticks)
  exact @holds_waitOnChannel Registry DeviceAct id (fun g _ => g) (fun _ _ => rfl)
    (fun act g => g.perform (.device act)) _ (fun _ g => Scene.Reached ⟨g, []⟩) acts goesOn
    predicate (some wait) events g reached

theorem reached_writeAndCheck [Clock] (reached : Scene.Reached ⟨g, []⟩) (channel : String)
    (wait : ChannelWait) (predicate : Except Error Predicate) (write : Option String)
    (events : List (Scheduled DeviceAct)) :
    Scene.Reached ⟨(writeAndCheck channel wait predicate write events g).registry, []⟩ := by
  unfold writeAndCheck
  cases write with
  | none => exact reached_waitFor reached predicate wait events
  | some text =>
    have written : Scene.Reached ⟨(g.write channel (.text text)).2, []⟩ :=
      reached.course (.single (.write channel (.text text)))
    dsimp only
    rcases wrote : g.write channel (.text text) with ⟨e | count, later⟩ <;> rw [wrote] at written
    · exact written
    · exact reached_waitFor written predicate wait events

theorem reached_closeChecked {c : Checked} (reached : Scene.Reached ⟨c.registry, []⟩) :
    Scene.Reached ⟨(closeChecked c).registry, []⟩ := by
  have closed : Scene.Reached ⟨c.registry.closeAll.2, []⟩ := reached.course (.single .closeAll)
  unfold closeChecked
  cases c.result with
  | ok d => exact closed
  | error e =>
    dsimp only
    split
    · exact closed
    · exact reached

theorem reached_openAndCheck [Clock] (reached : Scene.Reached ⟨g, []⟩)
    (channel operator expected : String) (write : Option String) (timeout : Binary64) (baud : Int)
    (events : List (Scheduled DeviceAct)) :
    Scene.Reached
      ⟨(openAndCheck channel operator expected write timeout baud events g).registry, []⟩ := by
  have opened : Scene.Reached ⟨(g.openChannel channel (.number baud)
      (.number SerialPort.defaultBits)).2, []⟩ := reached.course (.single (.openChannel ..))
  unfold openAndCheck
  rcases found : g.openChannel channel (.number baud) (.number SerialPort.defaultBits)
    with ⟨e | c, later⟩ <;> rw [found] at opened
  · exact opened
  · exact reached_closeChecked (reached_writeAndCheck opened ..)

/-! ### What a check leaves open -/

theorem closeChecked_of_foreign {c : Checked} {e : Error} (result : c.result = .error e)
    (foreign : e.isBench = false) : closeChecked c = c := by
  unfold closeChecked
  rw [result]
  exact if_neg (foreign ▸ Bool.false_ne_true)

/-- Closing after a check leaves no channel open, unless the check has raised an error that is not
the bench's own. -/
theorem closeChecked_spec (c : Checked) :
    (closeChecked c).registry.opened = [] ∧ (∀ e, (closeChecked c).result = .error e →
        e.isBench = true)
      ∨ ∃ e, c.result = .error e ∧ e.isBench = false ∧ closeChecked c = c := by
  have closed := c.registry.closes_closeAll.2
  have reported := @Registry.isBench_of_closeAll c.registry
  cases result : c.result with
  | ok d =>
    unfold closeChecked
    rw [result]
    refine Or.inl ⟨closed, fun e failed => reported ?_⟩
    change c.registry.closeAll.1.map (fun _ => d) = .error e at failed
    cases outcome : c.registry.closeAll.1 with
    | ok done =>
      rw [outcome] at failed
      cases failed
    | error e' =>
      rw [outcome] at failed
      cases failed
      rfl
  | error e =>
    cases own : e.isBench with
    | true =>
      unfold closeChecked
      rw [result]
      dsimp only
      rw [own]
      refine Or.inl ⟨closed, fun e' failed => ?_⟩
      obtain rfl : e = e' := Except.error.inj failed
      exact own
    | false => exact Or.inr ⟨e, rfl, own, closeChecked_of_foreign result own⟩

theorem openAndCheck_closed [Clock] (closed : g.opened = []) {channel operator expected : String}
    {write : Option String} {timeout : Binary64} {baud : Int} {events : List (Scheduled DeviceAct)}
    (own : ∀ e, (openAndCheck channel operator expected write timeout baud events g).result
      = .error e → e.isBench = true) :
    (openAndCheck channel operator expected write timeout baud events g).registry.opened = [] := by
  have opened := Registry.openChannel_counts channel (.number baud)
    (.number SerialPort.defaultBits) g
  unfold openAndCheck at own ⊢
  rcases found : g.openChannel channel (.number baud) (.number SerialPort.defaultBits)
    with ⟨e | c, later⟩ <;> rw [found] at own opened
  · rcases opened with ⟨c, failed, -⟩ | ⟨-, same, -⟩
    · cases failed
    · exact same.trans closed
  · rcases closeChecked_spec (writeAndCheck channel ⟨channel, .real timeout⟩
      (Predicate.make (.operator operator (.text expected))) write events later) with
      ⟨none, -⟩ | ⟨e, failed, foreign, same⟩
    · exact none
    · dsimp only at own
      rw [same] at own
      exact absurd (own e failed) (foreign ▸ Bool.false_ne_true)

/-! ### What a check raises -/

theorem isTooLarge_real (timeout : Binary64) : (Numeral.real timeout).isTooLarge = false := by
  cases timeout <;> rfl

/-- A check raises this while it waits: that the clock cannot sleep for the time limit, or what a
pattern raises when data is matched against it. -/
def RaisedWaiting [Clock] (operator : Operator) (expected : String) (timeout : Binary64)
    (e : Error) : Prop :=
  (e = .sleepTooLong ∧ Clock.refuses timeout.value = true)
    ∨ operator = .matching ∧ ∃ data, operator.compare data (.text expected) = .error e

/-- An error of the bench's own, a fault that a device raises when it is opened or written to, or
what the check raises while it waits. -/
def Accounted [Clock] (r : Rack) (operator : Operator) (expected : String) (timeout : Binary64)
    (e : Error) : Prop :=
  r.Explains e ∨ RaisedWaiting operator expected timeout e

theorem accounted_writeAndCheck [Clock] (serial : ∀ c ∈ g.opened, c.link.IsSerial)
    {operator : Operator} {channel expected : String} {write : Option String} {timeout : Binary64}
    {events : List (Scheduled DeviceAct)} {e : Error}
    (failed : (writeAndCheck channel ⟨channel, .real timeout⟩
      (Predicate.make (.operator operator.name (.text expected))) write events g).result
        = .error e) :
    Accounted g.bench.toRack operator expected timeout e := by
  have bounded := isTooLarge_real timeout
  have waited {g' : Registry} (failed : (g'.waitFor (fun act g => g.perform (.device act))
      (Predicate.make (.operator operator.name (.text expected)))
      (some ⟨channel, .real timeout⟩) events).result = .error e) :
      Accounted g.bench.toRack operator expected timeout e := by
    rw [Operator.make_name] at failed
    rcases Registry.waitFor_failed bounded failed with own | tooLong | ⟨call, data, raised⟩
    · exact Or.inl (Or.inl own)
    · exact Or.inr (Or.inl tooLong)
    · have raises := Operator.compare_of_judge raised
      exact Or.inr (Or.inr ⟨Operator.matching_of_error raises, data, raises⟩)
  unfold writeAndCheck at failed
  dsimp only at failed
  split at failed
  · next outcome =>
    cases failed
    cases write with
    | none => cases outcome
    | some text => exact Or.inl (Registry.explains_write serial (congrArg Prod.fst outcome))
  · dsimp only at failed
    split at failed
    · cases failed
    · cases failed
    · next ended =>
      cases failed
      exact waited ended

theorem error_of_closeChecked {c : Checked} {e : Error}
    (failed : (closeChecked c).result = .error e) : e.isBench = true ∨ c.result = .error e := by
  rcases closeChecked_spec c with ⟨-, own⟩ | ⟨e', -, -, same⟩
  · exact Or.inl (own e failed)
  · exact Or.inr (same ▸ failed)

/-- Every error of a check is accounted for by what the device raised before it, or by the wait. -/
theorem accounted_openAndCheck [Clock] (serial : g.serial = true) (closed : g.opened = [])
    (running : g.bench.scheduler.isRunning = true) {operator : Operator}
    {channel expected : String} {write : Option String} {timeout : Binary64} {baud : Int}
    {events : List (Scheduled DeviceAct)} {e : Error}
    (failed : (openAndCheck channel operator.name expected write timeout baud events g).result
      = .error e) :
    Accounted g.bench.toRack operator expected timeout e := by
  obtain ⟨same, kind, explains⟩ := Registry.explains_openChannel serial running channel
    (.number baud) (.number SerialPort.defaultBits)
  unfold openAndCheck at failed
  rcases found : g.openChannel channel (.number baud) (.number SerialPort.defaultBits)
    with ⟨e' | c, later⟩ <;> rw [found] at failed same kind explains
  · cases failed
    exact Or.inl (explains e rfl)
  · rcases error_of_closeChecked failed with own | failed
    · exact Or.inl (Or.inl own)
    · obtain ⟨isSerial, adds⟩ := kind c rfl
      have links : ∀ d ∈ later.opened, d.link.IsSerial := by
        intro d there
        rw [adds.opened, closed] at there
        rw [List.mem_singleton.mp there]
        exact isSerial
      exact (accounted_writeAndCheck links failed).imp_left same.explains

/-! ### The report -/

theorem exit_runExpect [Clock] (w : World) (channel operator expected : String)
    (write : Option String) (timeout : Binary64) (baud : Int) :
    (runExpect channel operator expected write timeout baud w).bench
        = (checkOutput channel operator expected write timeout baud w).registry.bench
      ∧ (runExpect channel operator expected write timeout baud w).exit
        = match (checkOutput channel operator expected write timeout baud w).result with
          | .ok _ => .ok 0
          | .error e => if e.isBench then .ok 1 else .error e := by
  unfold runExpect
  generalize checkOutput channel operator expected write timeout baud w = c
  obtain ⟨result, printed, elapsed, registry⟩ := c
  dsimp only
  cases result with
  | ok d => cases d <;> exact ⟨rfl, rfl⟩
  | error e =>
    dsimp only
    split
    · next same => cases same
    · next same => cases same
    · next same =>
      cases same
      exact ⟨rfl, rfl⟩
    · next same =>
      cases same
      split
      · exact ⟨rfl, rfl⟩
      · exact ⟨rfl, rfl⟩

/-- Leaving the scheduler leaves the devices alone. An error of the check is kept; where there is
none, only an error of the bench can come of it. -/
theorem checkOutput_spec [Clock] (w : World) (channel operator expected : String)
    (write : Option String) (timeout : Binary64) (baud : Int) :
    let checked := openAndCheck channel operator expected write timeout baud w.events w.started
    let left := checkOutput channel operator expected write timeout baud w
    left.registry.bench.devices = checked.registry.bench.devices
      ∧ (∀ e, checked.result = .error e → left.result = .error e)
      ∧ ∀ d e, checked.result = .ok d → left.result = .error e → e.isBench = true := by
  unfold checkOutput World.started
  generalize openAndCheck channel operator expected write timeout baud w.events
    (.make none w.environ true w.bench.start) = c
  obtain ⟨result, printed, elapsed, registry⟩ := c
  have devices (during : Option String) :
      (registry.bench.leave during).2.devices = registry.bench.devices :=
    (Bench.leave_fields during registry.bench).1.trans (registry.bench.stop_spec _).2.2
  cases result with
  | ok d =>
    have stopped := (registry.bench.stop_spec Scheduler.joinTimeout).1
    have reported : Scheduler.joinTimeout.isTooLarge = false := by decide
    have same := devices none
    rw [← Bench.leave_none, reported] at stopped
    dsimp only
    rcases left : registry.bench.leave none with ⟨e | _, later⟩ <;> rw [left] at same stopped
    · refine ⟨same, fun e' found => (nomatch found), fun d' e' _ failed => ?_⟩
      cases failed
      split at stopped
      · cases stopped
        rfl
      · cases stopped
    · exact ⟨same, fun e' found => (nomatch found), fun d' e' _ failed => (nomatch failed)⟩
  | error e =>
    have logged := Bench.leave_of_error e.name registry.bench
    have same := devices (some e.name)
    dsimp only
    rcases left : registry.bench.leave (some e.name) with ⟨e' | _, later⟩ <;>
      rw [left] at same logged
    · cases logged
    · exact ⟨same, fun e' found => found, fun d e' found => (nomatch found)⟩

theorem device_runExpect [Clock] (w : World) (channel operator expected : String)
    (write : Option String) (timeout : Binary64) (baud : Int) (endpoint : String) :
    (runExpect channel operator expected write timeout baud w).bench.device endpoint
      = (openAndCheck channel operator expected write timeout baud w.events
        w.started).registry.bench.device endpoint := by
  obtain ⟨bench, -⟩ := exit_runExpect w channel operator expected write timeout baud
  obtain ⟨devices, -⟩ := checkOutput_spec w channel operator expected write timeout baud
  rw [bench]
  exact Rack.device_congr devices endpoint

/-- The command ends with an exit code, unless its check raises an error that is not the bench's own
and that the command raises then. -/
theorem exit_spec [Clock] (w : World) (channel operator expected : String)
    (write : Option String) (timeout : Binary64) (baud : Int) :
    let checked := openAndCheck channel operator expected write timeout baud w.events w.started
    let report := runExpect channel operator expected write timeout baud w
    (report.exit = .ok 0 ∨ report.exit = .ok 1)
        ∧ (∀ e, checked.result = .error e → e.isBench = true)
      ∨ ∃ e, report.exit = .error e ∧ checked.result = .error e ∧ e.isBench = false := by
  intro checked report
  obtain ⟨-, exit⟩ := exit_runExpect w channel operator expected write timeout baud
  obtain ⟨-, kept, own⟩ := checkOutput_spec w channel operator expected write timeout baud
  change report.exit = _ at exit
  cases found : checked.result with
  | error e =>
    rw [kept e found] at exit
    dsimp only at exit
    cases bench : e.isBench with
    | true =>
      rw [bench] at exit
      refine Or.inl ⟨Or.inr exit, fun e' same => ?_⟩
      obtain rfl : e = e' := Except.error.inj same
      exact bench
    | false =>
      rw [bench] at exit
      exact Or.inr ⟨e, exit, rfl, bench⟩
  | ok d =>
    refine Or.inl ⟨?_, fun e same => (nomatch same)⟩
    cases ended : (checkOutput channel operator expected write timeout baud w).result with
    | ok d' =>
      rw [ended] at exit
      exact Or.inl exit
    | error e =>
      rw [ended] at exit
      dsimp only at exit
      rw [own d e found ended] at exit
      exact Or.inr exit

/-- The command has ended with exit code 0 or 1, every device was closed as often as it was opened,
and no subscription was left for the stop of the scheduler to drop. -/
structure EndsClean (checked : Checked) (report : Report) : Prop where
  code : report.exit = .ok 0 ∨ report.exit = .ok 1
  closed : ∀ endpoint,
    (report.bench.device endpoint).opens = (report.bench.device endpoint).closes
  released : checked.registry.bench.scheduler.subscriptions = []

theorem closed_of_own [Clock] (untouched : w.Untouched) {channel operator expected : String}
    {write : Option String} {timeout : Binary64} {baud : Int}
    (own : ∀ e, (openAndCheck channel operator expected write timeout baud w.events
      w.started).result = .error e → e.isBench = true) :
    let checked := openAndCheck channel operator expected write timeout baud w.events w.started
    let report := runExpect channel operator expected write timeout baud w
    (∀ endpoint, (report.bench.device endpoint).opens = (report.bench.device endpoint).closes)
      ∧ checked.registry.bench.scheduler.subscriptions = [] := by
  intro checked report
  have reached : Scene.Reached ⟨checked.registry, []⟩ :=
    reached_openAndCheck (reached_started untouched) ..
  have closed : checked.registry.opened = [] := openAndCheck_closed rfl own
  refine ⟨fun endpoint => ?_, reached.idle closed⟩
  -- With no channel open, openings and closings balance, and the stop changes neither.
  have balance := reached.balanced.opens endpoint
  rw [closed] at balance
  rw [device_runExpect]
  exact balance

theorem accounted_exit [Clock] (untouched : w.Untouched) {channel expected : String}
    {operator : Operator} {write : Option String} {timeout : Binary64} {baud : Int} {e : Error}
    (found : (openAndCheck channel operator.name expected write timeout baud w.events
      w.started).result = .error e) (foreign : e.isBench = false) :
    w.bench.toRack.PassesOn e ∨ RaisedWaiting operator expected timeout e := by
  obtain ⟨running, same⟩ := started_spec untouched
  rcases accounted_openAndCheck rfl rfl running found with explained | waiting
  · refine Or.inl ((same.explains explained).resolve_left ?_)
    exact foreign ▸ Bool.false_ne_true
  · exact Or.inr waiting

/-- The command ends clean if and only if it raises nothing. What it raises is an error of its check
and none of the bench's own: a fault that a device raises when it is opened or written to and that
the port passes on, or that the clock cannot sleep for the time limit, or what the pattern raises
when data is matched against it. -/
theorem endsClean_iff [Clock] (untouched : w.Untouched) (channel expected : String)
    (operator : Operator) (write : Option String) (timeout : Binary64) (baud : Int) :
    let checked := openAndCheck channel operator.name expected write timeout baud w.events w.started
    let report := runExpect channel operator.name expected write timeout baud w
    (EndsClean checked report ↔ ∀ e, report.exit ≠ .error e)
      ∧ ∀ e, report.exit = .error e → checked.result = .error e ∧ e.isBench = false
        ∧ (w.bench.toRack.PassesOn e
          ∨ (e = .sleepTooLong ∧ Clock.refuses timeout.value = true)
          ∨ operator = .matching ∧ ∃ data, operator.compare data (.text expected) = .error e) := by
  intro checked report
  rcases exit_spec w channel operator.name expected write timeout baud with
    ⟨code, own⟩ | ⟨e, exit, found, foreign⟩
  · have silent : ∀ e, report.exit ≠ .error e := by
      intro e raised
      change report.exit = _ ∨ report.exit = _ at code
      rw [raised] at code
      rcases code with code | code <;> cases code
    obtain ⟨closed, released⟩ := closed_of_own untouched own
    exact ⟨⟨fun _ => silent, fun _ => ⟨code, closed, released⟩⟩,
      fun e raised => absurd raised (silent e)⟩
  · change report.exit = .error e at exit
    refine ⟨⟨fun clean => ?_, fun silent => absurd exit (silent e)⟩, fun e' raised => ?_⟩
    · have code := clean.code
      rw [exit] at code
      rcases code with code | code <;> cases code
    · obtain rfl : e = e' := Except.error.inj (exit.symm.trans raised)
      exact ⟨found, foreign, accounted_exit untouched found foreign⟩

/-- The device on the usual port sends its answer a second after the command has begun. -/
def answering : World where
  environ := .ofList [("HIL_SERIAL_DEV", "/dev/a")]
  process := .quiet
  bench := .make [] .usual
  events := [⟨1, .feed "/dev/a" [Text.Utf8.encode "pong"]⟩]

theorem untouched_answering : answering.Untouched :=
  ⟨[], [], rfl⟩

/-- Whatever comes of this check, the command ends clean. -/
theorem endsClean_answering :
    letI : Clock := .threads
    answering.Untouched ∧ EndsClean
      (openAndCheck "Serial" Operator.contain.name "pong" (some "ping") (.ofInt 3)
        SerialPort.defaultBaud answering.events answering.started)
      (runExpect "Serial" Operator.contain.name "pong" (some "ping") (.ofInt 3)
        SerialPort.defaultBaud answering) := by
  let _ : Clock := .threads
  obtain ⟨clean, accounted⟩ := endsClean_iff untouched_answering "Serial" "pong" .contain
    (some "ping") (.ofInt 3) SerialPort.defaultBaud
  -- The device has no fault to pass on, three seconds can be slept for, and the operator is not the
  -- one that matches.
  refine ⟨untouched_answering, clean.mpr fun e raised => ?_⟩
  rcases (accounted e raised).2.2 with
    ⟨f, -, -, endpoint, stage, -, fault⟩ | ⟨-, tooLong⟩ | ⟨pattern, -⟩
  · cases fault
  · exact absurd tooLong (by decide +kernel)
  · cases pattern

/-! ### Checks that are given up at their first call -/

/-- The wait of a check ends with an error and leaves all as it is. -/
def GivesUp [Clock] (channel operator expected : String) (timeout : Binary64)
    (events : List (Scheduled DeviceAct)) (g : Registry) (e : Error) : Prop :=
  let answer := g.waitFor (fun act g => g.perform (.device act))
    (Predicate.make (.operator operator (.text expected))) (some ⟨channel, .real timeout⟩) events
  answer.result = .error e ∧ answer.after = g

/-- Where the error is not the bench's own, the whole check ends with it. -/
theorem openAndCheck_of_foreign [Clock] {channel operator expected : String} {timeout : Binary64}
    {baud : Int} {events : List (Scheduled DeviceAct)} {c : Channel} {later : Registry} {e : Error}
    (opened : g.openChannel channel (.number baud) (.number SerialPort.defaultBits)
      = (.ok c, later))
    (waited : GivesUp channel operator expected timeout events later e)
    (foreign : e.isBench = false) :
    let checked := openAndCheck channel operator expected none timeout baud events g
    checked.result = .error e ∧ checked.registry = later := by
  obtain ⟨result, after⟩ := waited
  have checked : (writeAndCheck channel ⟨channel, .real timeout⟩
      (Predicate.make (.operator operator (.text expected))) none events later).result = .error e
      ∧ (writeAndCheck channel ⟨channel, .real timeout⟩
        (Predicate.make (.operator operator (.text expected))) none events later).registry
          = later := by
    unfold writeAndCheck
    dsimp only
    rw [result, after]
    exact ⟨rfl, rfl⟩
  unfold openAndCheck
  rw [opened]
  dsimp only
  rw [closeChecked_of_foreign checked.1 foreign]
  exact checked

/-- Such a check ends the command without an exit code, and leaves the port open. -/
theorem exit_of_foreign [Clock] (untouched : w.Untouched) {channel operator expected : String}
    {timeout : Binary64} {baud : Int} {c : Channel} {later : Registry} {e : Error}
    (opened : w.started.openChannel channel (.number baud) (.number SerialPort.defaultBits)
      = (.ok c, later))
    (waited : GivesUp channel operator expected timeout w.events later e)
    (foreign : e.isBench = false) :
    let report := runExpect channel operator expected none timeout baud w
    report.exit = .error e ∧ (report.bench.device c.link.endpoint).opens
      = (report.bench.device c.link.endpoint).closes + 1 := by
  intro report
  have adds := Registry.adds_openChannel opened
  obtain ⟨result, same⟩ := openAndCheck_of_foreign opened waited foreign
  constructor
  · obtain ⟨-, exit⟩ := exit_runExpect w channel operator expected none timeout baud
    obtain ⟨-, kept, -⟩ := checkOutput_spec w channel operator expected none timeout baud
    rw [kept _ result] at exit
    dsimp only at exit
    rw [foreign] at exit
    exact exit
  · have reached : Scene.Reached ⟨later, []⟩ := by
      have course := (reached_started untouched).course (.single (.openChannel channel
        (.number baud) (.number SerialPort.defaultBits)))
      rw [opened] at course
      exact course
    have alone : later.opened = [c] := adds.opened
    have balance := reached.balanced.opens c.link.endpoint
    rw [device_runExpect, same, balance, alone, usersOf_cons, Rack.once, if_pos rfl]
    rfl

/-- A pattern that cannot be read ends the command without an exit code, and leaves the port
open. -/
theorem exit_of_pattern [Clock] (untouched : w.Untouched) (timeout : Binary64)
    {channel expected : String} {baud : Int} {c : Channel} {later : Registry}
    {defect : Pattern.Defect} {text : Bool}
    (opened : w.started.openChannel channel (.number baud) (.number SerialPort.defaultBits)
      = (.ok c, later))
    (raises : Operator.matching.compare (Buffer.empty channel).snapshot (.text expected)
      = .error (.badPattern defect text)) :
    let report := runExpect channel Operator.matching.name expected none timeout baud w
    report.exit = .error (.badPattern defect text) ∧ (report.bench.device c.link.endpoint).opens
      = (report.bench.device c.link.endpoint).closes + 1 := by
  have adds := Registry.adds_openChannel opened
  refine exit_of_foreign untouched opened ?_ rfl
  rw [GivesUp, Operator.make_name]
  refine Registry.waitFor_raises (isTooLarge_real timeout) (adds.active rfl) ?_
  rw [adds.buffer, Operator.call_name, raises]
  rfl

/-- So does a time limit that the clock cannot sleep for, unless the empty buffer passes the
check. -/
theorem exit_of_refused [Clock] (untouched : w.Untouched) (timeout : Binary64)
    {channel expected : String} {operator : Operator} {baud : Int} {c : Channel} {later : Registry}
    {m : Mismatch}
    (opened : w.started.openChannel channel (.number baud) (.number SerialPort.defaultBits)
      = (.ok c, later))
    (positive : 0 < timeout.value) (tooLong : Clock.refuses timeout.value = true)
    (fails : operator.compare (Buffer.empty channel).snapshot (.text expected) = .ok (.fails m)) :
    let report := runExpect channel operator.name expected none timeout baud w
    report.exit = .error .sleepTooLong ∧ (report.bench.device c.link.endpoint).opens
      = (report.bench.device c.link.endpoint).closes + 1 := by
  have adds := Registry.adds_openChannel opened
  refine exit_of_foreign untouched opened ?_ rfl
  rw [GivesUp, Operator.make_name]
  refine Registry.waitFor_refused _ (m := m) (isTooLarge_real timeout) (adds.active rfl) positive
    tooLong ?_
  rw [adds.buffer, Operator.call_name, fails]
  rfl

/-- A pattern that cannot be read ends the command without an exit code, and by the clock of threads
so does a time limit of `10 ^ 10` seconds. -/
theorem not_endsClean_of_pattern :
    letI : Clock := .threads
    let clean (operator : Operator) (expected : String) (timeout : Binary64) : Prop :=
      EndsClean (openAndCheck "Serial" operator.name expected none timeout SerialPort.defaultBaud
          answering.events answering.started)
        (runExpect "Serial" operator.name expected none timeout SerialPort.defaultBaud answering)
    answering.Untouched ∧ ¬ clean .matching "(" (.ofInt 3)
      ∧ ¬ clean .contain "pong" (.ofInt 10000000000) := by
  let _ : Clock := .threads
  intro clean
  have opens : (answering.started.openChannel "Serial" (.number SerialPort.defaultBaud)
      (.number SerialPort.defaultBits)).1.toOption.isSome = true := by decide +kernel
  rcases opened : answering.started.openChannel "Serial" (.number SerialPort.defaultBaud)
    (.number SerialPort.defaultBits) with ⟨e | c, later⟩
  · rw [opened] at opens
    cases opens
  -- In both cases a channel was opened, and its device is closed once less.
  have unclean {opens closes : Nat} (once : opens = closes + 1) (same : opens = closes) : False :=
    absurd (same.symm.trans once) (Nat.ne_of_lt (Nat.lt_succ_self closes))
  refine ⟨untouched_answering, fun ends => ?_, fun ends => ?_⟩
  · have raises : Operator.matching.compare (Buffer.empty "Serial").snapshot (.text "(")
        = .error (.badPattern .malformed true) := by decide +kernel
    obtain ⟨-, unclosed⟩ := exit_of_pattern untouched_answering (.ofInt 3) opened raises
    exact unclean unclosed (ends.closed c.link.endpoint)
  · have fails : Operator.contain.compare (Buffer.empty "Serial").snapshot (.text "pong")
        = .ok (.fails ⟨Operator.contain.name, .text "pong", .text "", ""⟩) := by decide +kernel
    obtain ⟨-, unclosed⟩ := exit_of_refused untouched_answering (.ofInt 10000000000)
      opened (by decide +kernel) (by decide +kernel) fails
    exact unclean unclosed (ends.closed c.link.endpoint)

end AcceptanceBench.CommandLine
