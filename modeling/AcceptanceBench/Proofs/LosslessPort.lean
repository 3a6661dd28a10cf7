import AcceptanceBench.Proofs.Script
import AcceptanceBench.Proofs.Serving
import AcceptanceBench.Step.SerialPort

/-!
What a serial port loses and what it says of it. Over any script on one port, whatever faults its
device raises meanwhile, nothing that the device sent is lost: what readings have returned, followed
by what is still queued, is all that was sent. A write returns only if the payload went out in full,
every other reading and write fails with an error of the port, and neither opens nor closes it.
-/

namespace AcceptanceBench

/-! ### What the operations of a port come to -/

/-- Bytes were found at the front of a device's queue, and more may have arrived. -/
def Device.Flows (found : Bytes) (d d' : Device) : Prop :=
  ∃ more, d'.sent.flatten = d.sent.flatten ++ more
    ∧ d.queue.flatten ++ more = found ++ d'.queue.flatten

theorem Rack.Grows.flows {r r' : Rack} (grows : r.Grows r') (endpoint : String) :
    Device.Flows [] (r.device endpoint) (r'.device endpoint) := by
  obtain ⟨chunks, sent, queue⟩ := grows endpoint
  refine ⟨chunks.flatten, ?_, ?_⟩
  · rw [sent, List.flatten_append]
  · rw [queue, List.flatten_append, List.nil_append]

theorem Rack.Takes.flows {endpoint : String} {taken : Bytes} {r r' : Rack}
    (takes : Takes endpoint taken r r') :
    Device.Flows taken (r.device endpoint) (r'.device endpoint) := by
  obtain ⟨sent, queue⟩ := takes endpoint
  rw [if_pos rfl] at queue
  exact ⟨[], by rw [sent, List.append_nil], by rw [List.append_nil, queue]⟩

/-- What a change of devices keeps is as it was for every one of them. -/
theorem Rack.kept_alter {β : Type} (kept : Device → β) (r : Rack) (endpoint other : String)
    {change : Device → Device} (same : ∀ d, kept (change d) = kept d) :
    kept ((r.alter endpoint change).device other) = kept (r.device other) := by
  rw [device_alter]
  split
  · next here => rw [same, here]
  · rfl

/-- The device sends a payload out in full. -/
structure Device.Accepts (payload : Bytes) (d : Device) : Prop where
  written : d.fault .write = none
  flushed : d.fault .flush = none
  whole : d.writeCount payload = payload.length

/-- The read timeout that a serial port was opened with. -/
def Opening.readTimeout? : Opening → Option Numeral
  | .serial _ _ _ _ _ timeout _ => some timeout
  | .plain _ _ _ => none

theorem Device.Alike.opening {d d' : Device} (alike : d.Alike d') : d'.opening = d.opening := by
  rw [Device.Alike] at alike
  rw [alike]

theorem Device.written_record (payload : Bytes) (d : Device) :
    (d.record payload).written = d.written ++ [payload] := by
  unfold record
  dsimp only
  split
  · rfl
  · rfl

/-- The faults that are set on a device are failures of the system. -/
def Device.FailsAsSystem (d : Device) : Prop :=
  ∀ stage f, d.fault stage = some f → f.kind.isSystem = true

namespace Device.FailsAsSystem

variable {d d' : Device}

theorem congr (system : d.FailsAsSystem) (same : d'.fault = d.fault) : d'.FailsAsSystem := by
  intro stage f raised
  rw [same] at raised
  exact system stage f raised

theorem setFault (system : d.FailsAsSystem) (stage : Stage) {fault : Option Fault}
    (sets : ∀ f, fault = some f → f.kind.isSystem = true) :
    (d.setFault stage fault).FailsAsSystem := by
  intro other f raised
  unfold Device.setFault at raised
  dsimp only at raised
  split at raised
  · exact sets f raised
  · exact system other f raised

end Device.FailsAsSystem

namespace SerialPort

variable {p : SerialPort} {r : Rack}

/-- A port can be opened or it stays as it is; an open port is left alone. -/
theorem connect_cases (p : SerialPort) (context : String) (r : Rack) :
    (∃ e r', p.connect context r = (.error e, r') ∧ r'.devices = r.devices)
      ∨ p.held = true ∧ p.connect context r = (.ok p, r)
      ∨ p.connect context r
        = (.ok { p with held := true }, r.alter p.port (.opened p.opening)) := by
  unfold connect
  split
  · next there => exact Or.inr (Or.inl ⟨(Bool.and_eq_true_iff.mp there).1, rfl⟩)
  · cases (r.device p.port).fault .openStage with
    | none => exact Or.inr (Or.inr rfl)
    | some f =>
      dsimp only
      split
      · exact Or.inl ⟨_, _, rfl, rfl⟩
      · exact Or.inl ⟨_, _, rfl, rfl⟩

/-- A reading takes all that waits, or fails with an error of the port and takes nothing. -/
theorem read_cases (system : (r.device p.port).FailsAsSystem) :
    (p.held = true ∧ (r.device p.port).fault .read = none)
        ∧ (p.read r).1 = .ok (r.device p.port).queue.flatten
        ∧ ((p.read r).2.device p.port).queue.flatten = []
      ∨ ¬ (p.held = true ∧ (r.device p.port).fault .read = none)
        ∧ (∃ e, (p.read r).1 = .error e ∧ e.name = "SerialCommunicationError")
        ∧ (p.read r).2.devices = r.devices := by
  unfold read
  cases held : p.held with
  | false => exact Or.inr ⟨by simp, ⟨_, rfl, rfl⟩, rfl⟩
  | true =>
    rw [Bool.not_true, if_neg Bool.false_ne_true]
    dsimp only
    cases fault : (r.device p.port).fault .read with
    | some f =>
      dsimp only
      rw [if_pos (system .read f fault)]
      exact Or.inr ⟨by simp, ⟨_, rfl, rfl⟩, rfl⟩
    | none =>
      dsimp only
      refine Or.inl ⟨⟨rfl, rfl⟩, ?_⟩
      cases queue : (r.device p.port).queue.flatten with
      | nil => exact ⟨rfl, queue⟩
      | cons b rest =>
        refine ⟨rfl, ?_⟩
        rw [Rack.device_alter, if_pos rfl]
        rfl

/-- A write tells the length of a payload that went out in full, or fails with an error of the port.
-/
theorem write_cases (system : (r.device p.port).FailsAsSystem) (payload : Bytes)
    (context : String) :
    (p.isOpen r = true ∧ (r.device p.port).Accepts payload)
        ∧ p.write payload context r = (.ok payload.length, r.alter p.port (.record payload))
      ∨ ¬ (p.isOpen r = true ∧ (r.device p.port).Accepts payload)
        ∧ ∃ e, (p.write payload context r).1 = .error e
          ∧ e.name = "SerialCommunicationError" := by
  unfold write
  cases usable : p.isOpen r with
  | false => exact Or.inr ⟨by simp, _, rfl, rfl⟩
  | true =>
    rw [Bool.not_true, if_neg Bool.false_ne_true]
    dsimp only
    cases written : (r.device p.port).fault .write with
    | some f =>
      dsimp only
      rw [if_pos (system .write f written)]
      exact Or.inr ⟨fun accepts => by simp [accepts.2.written] at written, _, rfl, rfl⟩
    | none =>
      dsimp only
      cases flushed : (r.device p.port).fault .flush with
      | some f =>
        dsimp only
        rw [if_pos (system .flush f flushed)]
        exact Or.inr ⟨fun accepts => by simp [accepts.2.flushed] at flushed, _, rfl, rfl⟩
      | none =>
        dsimp only
        split
        · next whole => exact Or.inl ⟨⟨rfl, written, flushed, whole⟩, by rw [whole]⟩
        · next short => exact Or.inr ⟨fun accepts => short accepts.2.whole, _, rfl, rfl⟩

/-- Closing a port that is not held does nothing. -/
theorem disconnect_cases (p : SerialPort) (r : Rack) :
    p.held = true ∧ p.disconnect r
        = ((r.device p.port).fault .close, { p with held := false }, r.alter p.port .closed)
      ∨ p.held = false ∧ p.disconnect r = (none, p, r) := by
  unfold disconnect
  cases held : p.held with
  | true => exact Or.inl ⟨rfl, rfl⟩
  | false => exact Or.inr ⟨rfl, rfl⟩

end SerialPort

namespace PortBench

/-- The device that the port leads to. -/
def device (s : PortBench) : Device := s.bench.device s.port.port

/-- Whether the port is open. -/
def isOpen (s : PortBench) : Bool := s.port.isOpen s.bench.toRack

theorem isOpen_eq (s : PortBench) : s.isOpen = (s.port.held && s.device.isOpen) := rfl

/-! ### What a script did -/

/-- A step that was taken, with what it returned. -/
structure Taken where
  step : PortStep
  result : Except Error Reply

/-- The bytes that a step read. -/
def Taken.found (t : Taken) : Bytes :=
  match t.step, t.result with
  | .read, .ok (.data (.bytes bytes)) => bytes
  | _, _ => []

/-- The step opened the port, or found it open. -/
def Taken.Opens (t : Taken) : Prop :=
  (∃ context, t.step = .connect context) ∧ ∃ reply, t.result = .ok reply

/-- What a script on a port did. -/
def history (port : SerialPort) (ports : List Port) (steps : List PortStep) : List Taken :=
  List.zipWith (fun step answer => ⟨step, answer.result⟩) steps (run port ports steps)

/-- The port was opened, and not closed since. -/
def OpenedSince (past : List Taken) : Prop :=
  Since Taken.Opens (·.step = .disconnect) past

/-- What was read, followed by what is still queued, is all that the device sent. -/
def Accounts (past : List Taken) (s : PortBench) : Prop :=
  past.flatMap Taken.found ++ s.device.queue.flatten = s.device.sent.flatten

/-- The faults that a script sets on a device are failures of the system. -/
def SystemFaults (endpoint : String) (steps : List PortStep) : Prop :=
  ∀ stage f, .device (.setFault endpoint stage (some f)) ∈ steps → f.kind.isSystem = true

theorem accounts_concat {past : List Taken} {t : Taken} {s s' : PortBench}
    (accounts : Accounts past s) (flows : Device.Flows t.found s.device s'.device) :
    Accounts (past ++ [t]) s' := by
  obtain ⟨more, sent, queue⟩ := flows
  unfold Accounts at accounts ⊢
  rw [List.flatMap_append, List.flatMap_singleton, List.append_assoc, ← queue, ← List.append_assoc,
    accounts, sent]

/-! ### What holds all along -/

/-- A port on a bench after some steps: the script alone decides whether the port is held, the
streams of its device are accounted for, and the bench serves nobody. -/
structure Sound (p : SerialPort) (past : List Taken) (s : PortBench) : Prop where
  port : s.port = { p with held := s.port.held }
  scheduler : s.bench.scheduler = .usual
  held : s.port.held = true ↔ OpenedSince past
  accounts : Accounts past s
  system : s.device.FailsAsSystem
  opening : s.port.held = true → s.device.opening = some p.opening

variable {p : SerialPort} {past : List Taken} {t : Taken} {s s' : PortBench}

/-- A step that leaves the port as it is keeps everything, unless it is to open or to close it. -/
theorem Sound.after (sound : Sound p past s) (port : s'.port = s.port)
    (scheduler : s'.bench.scheduler = s.bench.scheduler) (opens : t.Opens → s.port.held = true)
    (goes : t.step ≠ .disconnect) (flows : Device.Flows t.found s.device s'.device)
    (system : s'.device.FailsAsSystem) (opening : s'.device.opening = s.device.opening) :
    Sound p (past ++ [t]) s' := by
  refine ⟨port ▸ sound.port, scheduler.trans sound.scheduler, ?_,
    accounts_concat sound.accounts flows, system, fun held => ?_⟩
  · rw [port, OpenedSince, since_concat, ← OpenedSince, ← sound.held]
    exact ⟨fun held => Or.inr ⟨goes, held⟩, fun opened => opened.elim opens And.right⟩
  · rw [port] at held
    exact opening.trans (sound.opening held)

theorem system_perform {b : Bench} {act : DeviceAct} (still : act ≠ .pump) {endpoint : String}
    (system : (b.device endpoint).FailsAsSystem)
    (sets : ∀ stage f, act = .setFault endpoint stage (some f) → f.kind.isSystem = true) :
    ((b.perform act).2.device endpoint).FailsAsSystem := by
  cases act with
  | pump => exact absurd rfl still
  | stick stuck => exact system
  | setFault other stage fault =>
    have changed := b.device_alter other endpoint (.setFault stage fault)
    by_cases here : endpoint = other
    · subst here
      rw [if_pos rfl] at changed
      have sound := system.setFault stage fun f (set : fault = some f) => sets stage f (by rw [set])
      exact changed ▸ sound
    · rw [if_neg here] at changed
      exact changed ▸ system
  | _ => exact system.congr (b.kept_alter Device.fault _ endpoint fun _ => rfl)

/-- What an act on the devices of a bench leaves that serves nobody. -/
theorem perform_idle {b : Bench} (idle : b.scheduler = .usual) (act : DeviceAct)
    (endpoint : String) :
    (b.perform act).2 = b ∨ act ≠ .pump ∧ (b.perform act).2.scheduler = b.scheduler
      ∧ Device.Flows [] (b.device endpoint) ((b.perform act).2.device endpoint)
      ∧ ((b.perform act).2.device endpoint).opening = (b.device endpoint).opening := by
  by_cases still : act = .pump
  · rw [still]
    exact Or.inl (Bench.settle_of_idle (by rw [idle]; rfl) (by rw [idle]; rfl))
  · refine Or.inr ⟨still, Bench.perform_flags b still,
      (Bench.perform_spec b still).1.devices.flows endpoint, ?_⟩
    cases act with
    | pump => exact absurd rfl still
    | stick stuck => rfl
    | _ => exact b.kept_alter Device.opening _ endpoint fun _ => rfl

theorem Taken.not_opens_of_error {step : PortStep} {e : Error} :
    ¬ Taken.Opens ⟨step, .error e⟩ := by
  rintro ⟨-, reply, ok⟩
  cases ok

theorem result_read (s : PortBench) : (perform .read s).1
    = replyWith (fun bytes => .data (.bytes bytes)) (s.port.read s.bench.toRack).1 := rfl

theorem Sound.connect (sound : Sound p past s) (context : String) :
    Sound p (past ++ [⟨.connect context, (perform (.connect context) s).1⟩])
      (perform (.connect context) s).2 := by
  rcases s.port.connect_cases context s.bench.toRack with
    ⟨e, r, failed, same⟩ | ⟨held, there⟩ | opened
  · have acts : perform (.connect context) s = (.error e, s.withRack r) := by
      rw [perform, failed]
    have device : (s.withRack r).device = s.device := Rack.device_congr same _
    rw [acts]
    refine sound.after rfl rfl (fun opens => absurd opens Taken.not_opens_of_error) nofun
      ((Rack.grows_of_same same).flows _) ?_ ?_
    · rw [device]
      exact sound.system
    · rw [device]
  · have acts : perform (.connect context) s = (.ok .nothing, s) := by
      rw [perform, there]
      rfl
    rw [acts]
    exact sound.after rfl rfl (fun _ => held) nofun ((Rack.Grows.refl _).flows _) sound.system rfl
  · let r := s.bench.toRack.alter s.port.port (.opened s.port.opening)
    have acts : perform (.connect context) s
        = (.ok .nothing, { s.withRack r with port := { s.port with held := true } }) := by
      rw [perform, opened]
    have flows := (s.bench.toRack.grows_opened s.port.port s.port.opening).flows s.port.port
    have device : r.device s.port.port = s.device.opened s.port.opening := by
      rw [Rack.device_alter, if_pos rfl]
      rfl
    rw [acts]
    refine ⟨?_, sound.scheduler, ?_, accounts_concat sound.accounts flows, ?_, fun _ => ?_⟩
    · rw [sound.port]
    · exact iff_of_true rfl (since_concat.mpr (Or.inl ⟨⟨context, rfl⟩, .nothing, rfl⟩))
    · exact sound.system.congr (s.bench.toRack.kept_alter Device.fault _ _ fun _ => rfl)
    · refine (congrArg Device.opening device).trans ?_
      rw [sound.port]
      rfl

theorem Sound.disconnect (sound : Sound p past s) :
    Sound p (past ++ [⟨.disconnect, (perform .disconnect s).1⟩]) (perform .disconnect s).2 := by
  have closed {t : Taken} (ends : t.step = .disconnect) : ¬ OpenedSince (past ++ [t]) := by
    rw [OpenedSince, since_concat]
    rintro (⟨⟨context, opens⟩, -⟩ | ⟨going, -⟩)
    · cases ends.symm.trans opens
    · exact going ends
  rcases s.port.disconnect_cases s.bench.toRack with ⟨held, done⟩ | ⟨idle, done⟩
  · let r := s.bench.toRack.alter s.port.port .closed
    have acts : (perform .disconnect s).2
        = { s.withRack r with port := { s.port with held := false } } := by
      rw [perform, done]
    have flows := (s.bench.toRack.grows_closed s.port.port).flows s.port.port
    rw [acts]
    refine ⟨?_, sound.scheduler, iff_of_false nofun (closed rfl),
      accounts_concat sound.accounts flows, ?_, nofun⟩
    · rw [sound.port]
    · exact sound.system.congr (s.bench.toRack.kept_alter Device.fault _ _ fun _ => rfl)
  · have acts : (perform .disconnect s).2 = s := by
      rw [perform, done]
      rfl
    rw [acts]
    exact ⟨sound.port, sound.scheduler, iff_of_false (ne_true_of_eq_false idle) (closed rfl),
      accounts_concat sound.accounts ((Rack.Grows.refl _).flows _), sound.system, sound.opening⟩

/-- Every step keeps the port sound, if the faults that it sets are failures of the system. -/
theorem Sound.next (sound : Sound p past s) {step : PortStep} (sets : SystemFaults p.port [step]) :
    Sound p (past ++ [⟨step, (perform step s).1⟩]) (perform step s).2 := by
  cases step with
  | device act =>
    have name : s.port.port = p.port := by rw [sound.port]
    rcases perform_idle sound.scheduler act s.port.port with
      same | ⟨still, scheduler, flows, opening⟩
    · have unchanged : (perform (.device act) s).2 = s := by
        change { s with bench := (s.bench.perform act).2 } = s
        rw [same]
      rw [unchanged]
      exact sound.after rfl rfl nofun nofun ((Rack.Grows.refl _).flows _) sound.system rfl
    · have system := system_perform still sound.system fun stage f set =>
        sets stage f (by rw [set, name]; exact List.mem_singleton_self _)
      exact sound.after rfl scheduler nofun nofun flows system opening
  | connect context => exact sound.connect context
  | read =>
    obtain ⟨taken, takes, reads⟩ := s.port.takes_read s.bench.toRack
    have alike := s.port.alike_read s.bench.toRack s.port.port
    have found : Taken.found ⟨.read, (perform .read s).1⟩ = taken := by
      rw [result_read]
      rcases reads with ok | ⟨rfl, e, failed⟩
      · rw [ok]
        rfl
      · rw [failed]
        rfl
    exact sound.after rfl rfl nofun nofun (found ▸ takes.flows)
      (sound.system.congr alike.fields.2.1) alike.opening
  | write payload context =>
    have alike := s.port.alike_write payload context s.bench.toRack s.port.port
    have grows := s.port.grows_write payload context s.bench.toRack
    exact sound.after rfl rfl nofun nofun (grows.flows _) (sound.system.congr alike.fields.2.1)
      alike.opening
  | disconnect => exact sound.disconnect
  | settings =>
    exact sound.after rfl rfl nofun nofun ((Rack.Grows.refl _).flows _) sound.system rfl

/-! ### Whole scripts -/

/-- A port on a new bench after some steps. -/
def after (port : SerialPort) (ports : List Port) (steps : List PortStep) : PortBench :=
  steps.foldl (fun s step => (perform step s).2) ⟨port, .make ports .usual⟩

theorem after_concat (ports : List Port) (past : List PortStep) (step : PortStep) :
    after p ports (past ++ [step]) = (perform step (after p ports past)).2 :=
  List.foldl_concat ..

theorem run_concat (ports : List Port) (past : List PortStep) (step : PortStep) :
    run p ports (past ++ [step]) = run p ports past
      ++ [(Answer.ofAct perform step (after p ports past)).asStep] :=
  runSteps_concat ..

theorem history_concat (ports : List Port) (past : List PortStep) (step : PortStep) :
    history p ports (past ++ [step]) = history p ports past
      ++ [⟨step, (perform step (after p ports past)).1⟩] :=
  zipWith_runSteps_concat ..

theorem sound_after (new : p.held = false) (ports : List Port) {steps : List PortStep}
    (system : SystemFaults p.port steps) :
    Sound p (history p ports steps) (after p ports steps) := by
  induction steps using List.reverseRecOn with
  | nil =>
    exact ⟨rfl, rfl, iff_of_false (ne_true_of_eq_false new) not_since_nil, rfl, nofun,
      fun held => absurd held (ne_true_of_eq_false new)⟩
  | append_singleton past step ih =>
    have sound := ih fun stage f there => system stage f (List.mem_append_left _ there)
    rw [after_concat, history_concat]
    exact sound.next fun stage f there => system stage f (List.mem_append_right _ there)

/-! ### Readings, writes and closings -/

/-- What a reading comes to: all that is queued, without waiting for more, or an error of the port
if the port was not opened since it was last closed or the reading raises a fault. -/
structure Reads (past : List Taken) (answer : StepAnswer PortBench) : Prop where
  fails_iff : (∃ e, answer.result = .error e)
    ↔ ¬ OpenedSince past ∨ answer.before.device.fault .read ≠ none
  named : ∀ e, answer.result = .error e → e.name = "SerialCommunicationError"
  kept : ∀ e, answer.result = .error e → answer.after.device = answer.before.device
  whole : ∀ reply, answer.result = .ok reply →
    reply = .data (.bytes answer.before.device.queue.flatten)
      ∧ answer.after.device.queue.flatten = []
  prompt : answer.waiting = none
    ∧ (OpenedSince past → answer.before.device.opening.bind Opening.readTimeout? = some 0)

/-- What a write comes to: the length of a payload that went out in full from an open port and that
the device has recorded, or an error of the port. -/
structure Writes (payload : Bytes) (answer : StepAnswer PortBench) : Prop where
  returns_iff : ∀ n, answer.result = .ok (.count n)
    ↔ (answer.before.isOpen = true ∧ answer.before.device.Accepts payload) ∧ n = payload.length
  recorded : ∀ n, answer.result = .ok (.count n) →
    answer.after.device.written = answer.before.device.written ++ [payload]
  otherwise : (∃ n, answer.result = .ok (.count n))
    ∨ ∃ e, answer.result = .error e ∧ e.name = "SerialCommunicationError"

/-- What a closing comes to: the port and its device are closed, even if that raises a fault, and a
port that was not opened since it was last closed is left alone. -/
structure Closes (past : List Taken) (answer : StepAnswer PortBench) : Prop where
  closed : answer.after.isOpen = false
  raises : OpenedSince past → answer.result = match answer.before.device.fault .close with
    | some f => .error (.fault f)
    | none => .ok .nothing
  reached : OpenedSince past → answer.after.device = answer.before.device.closed
  again : ¬ OpenedSince past → answer.result = .ok .nothing ∧ answer.after = answer.before

/-- What a step on a port comes to, in view of what was done before. -/
structure Honest (past : List Taken) (step : PortStep) (answer : StepAnswer PortBench) : Prop where
  accounts : Accounts past answer.before
  accountsAfter : Accounts (past ++ [⟨step, answer.result⟩]) answer.after
  isOpen_iff : answer.before.isOpen = true
    ↔ OpenedSince past ∧ answer.before.device.isOpen = true
  reads : step = .read → Reads past answer
  writes : ∀ payload context, step = .write payload context → Writes payload answer
  steady : (step = .read ∨ ∃ payload context, step = .write payload context) →
    answer.after.port = answer.before.port ∧ answer.after.isOpen = answer.before.isOpen
  closes : step = .disconnect → Closes past answer

theorem Sound.reads (sound : Sound p past s) :
    Reads past (Answer.ofAct perform .read s).asStep := by
  have prompt (opened : OpenedSince past) :
      s.device.opening.bind Opening.readTimeout? = some 0 := by
    rw [sound.opening (sound.held.mpr opened)]
    rfl
  rcases SerialPort.read_cases sound.system with
    ⟨⟨held, readable⟩, ok, empty⟩ | ⟨refused, ⟨e, failed, named⟩, same⟩
  · have result : (perform .read s).1 = .ok (.data (.bytes s.device.queue.flatten)) :=
      (result_read s).trans (congrArg (replyWith _) ok)
    have goes (e : Error) : (perform .read s).1 ≠ .error e := by
      rw [result]
      exact nofun
    refine ⟨iff_of_false (fun ⟨e, failed⟩ => goes e failed) ?_,
      fun e failed => absurd failed (goes e), fun e failed => absurd failed (goes e),
      fun reply returned => ⟨?_, empty⟩, rfl, prompt⟩
    · rintro (never | faulty)
      · exact never (sound.held.mp held)
      · exact faulty readable
    · exact (Except.ok.inj (result.symm.trans returned)).symm
  · have result : (perform .read s).1 = .error e :=
      (result_read s).trans (congrArg (replyWith _) failed)
    refine ⟨iff_of_true ⟨e, result⟩ ?_, fun e' failed => ?_, fun _ _ => Rack.device_congr same _,
      fun reply returned => ?_, rfl, prompt⟩
    · exact (not_and_or.mp refused).imp_left fun idle opened => idle (sound.held.mpr opened)
    · obtain rfl := Except.error.inj (result.symm.trans failed)
      exact named
    · cases result.symm.trans returned

theorem result_write (s : PortBench) (payload : Bytes) (context : String) :
    (perform (.write payload context) s).1
      = replyWith .count (s.port.write payload context s.bench.toRack).1 := rfl

theorem Sound.writes (sound : Sound p past s) (payload : Bytes) (context : String) :
    Writes payload (Answer.ofAct perform (.write payload context) s).asStep := by
  rcases SerialPort.write_cases sound.system payload context with
    ⟨accepted, wrote⟩ | ⟨refused, e, failed, named⟩
  · have result : (perform (.write payload context) s).1 = .ok (.count payload.length) := by
      rw [result_write, wrote]
      rfl
    have recorded : (perform (.write payload context) s).2.device = s.device.record payload := by
      have written : (s.port.write payload context s.bench.toRack).2
          = s.bench.alter s.port.port (.record payload) := congrArg Prod.snd wrote
      have device := s.bench.device_alter s.port.port s.port.port (.record payload)
      rw [← written, if_pos rfl] at device
      exact device
    refine ⟨fun n => ⟨fun returned => ⟨accepted, ?_⟩, ?_⟩, fun n _ => ?_, Or.inl ⟨_, result⟩⟩
    · cases result.symm.trans returned
      rfl
    · rintro ⟨-, rfl⟩
      exact result
    · exact (congrArg Device.written recorded).trans (s.device.written_record payload)
  · have result : (perform (.write payload context) s).1 = .error e :=
      (result_write s payload context).trans (congrArg (replyWith _) failed)
    have fails (n : Int) : (perform (.write payload context) s).1 ≠ .ok (.count n) := by
      rw [result]
      exact nofun
    exact ⟨fun n => iff_of_false (fails n) fun told => refused told.1,
      fun n returned => absurd returned (fails n), Or.inr ⟨e, result, named⟩⟩

theorem Sound.closes (sound : Sound p past s) :
    Closes past (Answer.ofAct perform .disconnect s).asStep := by
  rcases s.port.disconnect_cases s.bench.toRack with ⟨held, done⟩ | ⟨idle, done⟩
  · refine ⟨?_, fun _ => ?_, fun _ => ?_, fun never => absurd (sound.held.mp held) never⟩
    · change (perform .disconnect s).2.isOpen = false
      rw [perform, done]
      rfl
    · change (perform .disconnect s).1 = _
      rw [perform, done]
      rfl
    · change (perform .disconnect s).2.device = s.device.closed
      have device := s.bench.device_alter s.port.port s.port.port .closed
      rw [if_pos rfl] at device
      rw [perform, done]
      exact device
  · have never : ¬ OpenedSince past := fun opened =>
      absurd (sound.held.mpr opened) (ne_true_of_eq_false idle)
    have acts : perform .disconnect s = (.ok .nothing, s) := by
      rw [perform, done]
      rfl
    refine ⟨?_, fun opened => absurd opened never, fun opened => absurd opened never,
      fun _ => ⟨congrArg Prod.fst acts, congrArg Prod.snd acts⟩⟩
    change (perform .disconnect s).2.isOpen = false
    rw [acts, isOpen, SerialPort.isOpen, idle]
    rfl

theorem steady_of_uses {step : PortStep}
    (uses : step = .read ∨ ∃ payload context, step = .write payload context) :
    (perform step s).2.port = s.port ∧ (perform step s).2.isOpen = s.isOpen := by
  have alike : Device.Alike s.device (perform step s).2.device := by
    rcases uses with rfl | ⟨payload, context, rfl⟩
    · exact s.port.alike_read s.bench.toRack s.port.port
    · exact s.port.alike_write payload context s.bench.toRack s.port.port
  have port : (perform step s).2.port = s.port := by
    rcases uses with rfl | ⟨payload, context, rfl⟩
    · rfl
    · rfl
  refine ⟨port, ?_⟩
  rw [isOpen_eq, isOpen_eq, port, alike.fields.2.2.1]

/-- A serial port is lossless and honest over every script, whatever arrives meanwhile and whatever
failures of the system its device raises: every byte that the device sent is returned once or still
queued, readings and writes say what they did or fail with an error of the port and leave it open or
closed as it was, and closing closes it, once. -/
theorem port_is_honest {port parity : String} {baud : Numeral} {bits stopBits : Argument}
    {writeTimeout : Option Numeral} {p : SerialPort}
    (made : SerialPort.make port baud bits parity stopBits writeTimeout = .ok p)
    (ports : List Port) {past : List PortStep} {step : PortStep}
    (system : SystemFaults p.port (past ++ [step])) :
    ∃ answer, run p ports (past ++ [step]) = run p ports past ++ [answer]
      ∧ Honest (history p ports past) step answer := by
  have new := SerialPort.new_of_make made
  have before := sound_after new ports fun stage f there =>
    system stage f (List.mem_append_left _ there)
  have after := sound_after new ports system
  rw [after_concat, history_concat] at after
  refine ⟨_, run_concat ports past step, before.accounts, after.accounts, ?_, ?_, ?_,
    steady_of_uses, ?_⟩
  · exact Bool.and_eq_true_iff.trans (and_congr_left fun _ => before.held)
  · rintro rfl
    exact before.reads
  · rintro payload context rfl
    exact before.writes payload context
  · rintro rfl
    exact before.closes

/-- A port at `COM1`. -/
def usual : SerialPort := ⟨"COM1", 9600, 8, "N", 1, none, false⟩

/-- What arrives before the port is opened, a reading and a write that fail, and a write that goes
out, which the device echoes. -/
def mishaps : List PortStep :=
  [.device (.feed "COM1" [[1, 2], [3]]), .connect "boot",
    .device (.setFault "COM1" .read (some ⟨.serialPort, "gone"⟩)), .read,
    .device (.setFault "COM1" .read none), .device (.echo "COM1"),
    .device (.setFault "COM1" .flush (some ⟨.serialTimeout, "slow"⟩)), .write [4] "query",
    .device (.setFault "COM1" .flush none), .write [5, 6] "query"]

/-- Nothing is lost: the next reading returns what arrived before and both echoes. -/
theorem port_is_honest_mishaps :
    SerialPort.make "COM1" 9600 (.number 8) "n" (.number 1) none = .ok usual
      ∧ SystemFaults usual.port (mishaps ++ [.read])
      ∧ ∃ answer, run usual [] (mishaps ++ [.read]) = run usual [] mishaps ++ [answer]
        ∧ Honest (history usual [] mishaps) .read answer
        ∧ answer.result = .ok (.data (.bytes [1, 2, 3, 4, 5, 6])) := by
  have made : SerialPort.make "COM1" 9600 (.number 8) "n" (.number 1) none = .ok usual := by
    decide +kernel
  have system : SystemFaults usual.port (mishaps ++ [.read]) := by
    intro stage f there
    simp only [mishaps, usual, List.cons_append, List.nil_append, List.mem_cons, reduceCtorEq,
      PortStep.device.injEq, DeviceAct.setFault.injEq, Option.some.injEq, false_or, or_false,
      and_false, true_and, List.not_mem_nil] at there
    rcases there with ⟨-, rfl⟩ | ⟨-, rfl⟩
    · rfl
    · rfl
  obtain ⟨answer, ran, honest⟩ := port_is_honest made [] system
  have last := congrArg (fun answers => answers.getLast?.map fun a => a.result) ran
  rw [List.getLast?_concat] at last
  exact ⟨made, system, answer, ran, honest, (Option.some.inj last).symm⟩

end PortBench

end AcceptanceBench
