import AcceptanceBench.Proofs.Balance

/-!
Which errors are not the bench's own. Opening a channel on a serial port and writing to it raise
errors of the bench, or pass on a fault that the device raises when it is opened or written to and
that is none of the system's.
-/

namespace AcceptanceBench

namespace Rack

/-- A fault that some device raises when it is opened or written to. -/
def Raises (r : Rack) (f : Fault) : Prop :=
  ∃ endpoint, ∃ stage ∈ [Stage.openStage, .write, .flush],
    (r.device endpoint).fault stage = some f

/-- A device's fault, passed on as it is. Serial ports do so unless the fault is of the system. -/
def PassesOn (r : Rack) (e : Error) : Prop :=
  ∃ f, e = .fault f ∧ f.kind.isSystem = false ∧ r.Raises f

/-- An error of the bench's own, or a fault of a device passed on. -/
def Explains (r : Rack) (e : Error) : Prop :=
  e.isBench = true ∨ r.PassesOn e

/-- The devices raise the same faults. -/
def SameFaults (r r' : Rack) : Prop :=
  ∀ endpoint, (r'.device endpoint).fault = (r.device endpoint).fault

theorem SameFaults.explains {r r' : Rack} (same : r.SameFaults r') {e : Error}
    (explains : r'.Explains e) : r.Explains e := by
  refine explains.imp_right fun ⟨f, passed, foreign, endpoint, stage, at_, fault⟩ => ?_
  exact ⟨f, passed, foreign, endpoint, stage, at_, same endpoint ▸ fault⟩

theorem sameFaults_opened (r : Rack) (endpoint : String) (opening : Opening) :
    r.SameFaults (r.alter endpoint (.opened opening)) := by
  intro other
  rw [device_alter]
  split
  · next same => rw [same]; rfl
  · rfl

end Rack

theorem error_of_bind {α β : Type} {x : Except Error α} {f : α → Except Error β} {e : Error}
    (failed : (x >>= f) = .error e) : x = .error e ∨ ∃ a, x = .ok a ∧ f a = .error e := by
  cases x with
  | error e' =>
    cases failed
    exact Or.inl rfl
  | ok a => exact Or.inr ⟨a, rfl, failed⟩

namespace SerialPort

theorem isBench_of_lineSetting {name port : String} {given : Argument} {supported : List Int}
    {e : Error} (refused : lineSetting name given supported port = .error e) :
    e.isBench = true := by
  unfold lineSetting at refused
  split at refused
  · cases refused
  · cases refused
    rfl

theorem isBench_of_paritySetting {given port : String} {e : Error}
    (refused : paritySetting given port = .error e) : e.isBench = true := by
  unfold paritySetting at refused
  dsimp only at refused
  split at refused
  · cases refused
  · cases refused
    rfl

theorem isBench_of_make {port : String} {baud : Numeral} {bits stopBits : Argument}
    {parity : String} {writeTimeout : Option Numeral} {e : Error}
    (refused : make port baud bits parity stopBits writeTimeout = .error e) : e.isBench = true := by
  have settled : (do
      let bits ← lineSetting "bytesize" bits [5, 6, 7, 8] port
      let parity ← paritySetting parity port
      let stopBits ← lineSetting "stopbits" stopBits [1, 2] port
      return { port, baud, bits, parity, stopBits, writeTimeout, held := false }
        : Except Error SerialPort) = Except.error e → e.isBench = true := by
    intro refused
    rcases error_of_bind refused with bits | ⟨_, -, refused⟩
    · exact isBench_of_lineSetting bits
    · rcases error_of_bind refused with parity | ⟨_, -, refused⟩
      · exact isBench_of_paritySetting parity
      · rcases error_of_bind refused with stopBits | ⟨_, -, refused⟩
        · exact isBench_of_lineSetting stopBits
        · cases refused
  have at_once (own : Error) (bench : own.isBench = true) {f : Unit → Except Error SerialPort}
      (refused : (Except.error own >>= f) = .error e) : e.isBench = true := by
    cases refused
    exact bench
  unfold make at refused
  by_cases rate : baud.value ≤ 0
  · simp only [rate, if_true] at refused
    exact at_once _ rfl refused
  · simp only [rate, if_false] at refused
    cases writeTimeout with
    | none => exact settled refused
    | some t =>
      by_cases negative : t.value < 0
      · simp only [negative, if_true] at refused
        exact at_once _ rfl refused
      · simp only [negative, if_false] at refused
        exact settled refused

/-- Opening a port fails with an error of the bench, or passes the fault of its device on. -/
theorem explains_connect (p : SerialPort) (context : String) (r : Rack) :
    r.SameFaults (p.connect context r).2
      ∧ ∀ e, (p.connect context r).1 = .error e → r.Explains e := by
  unfold connect
  split
  · exact ⟨fun _ => rfl, fun e failed => nomatch failed⟩
  · cases fault : (r.device p.port).fault .openStage with
    | none => exact ⟨r.sameFaults_opened p.port p.opening, fun e failed => nomatch failed⟩
    | some f =>
      dsimp only
      split
      · refine ⟨fun _ => rfl, fun e failed => ?_⟩
        cases failed
        exact Or.inl rfl
      · next foreign =>
        refine ⟨fun _ => rfl, fun e failed => ?_⟩
        cases failed
        exact Or.inr ⟨f, rfl, Bool.eq_false_iff.mpr foreign, p.port, .openStage, by decide, fault⟩

theorem explains_write {p : SerialPort} {payload : Bytes} {context : String} {r : Rack} {e : Error}
    (failed : (p.write payload context r).1 = .error e) : r.Explains e := by
  have passed {f : Fault} (raises : r.Raises f) {r' : Rack} (failed : (if f.kind.isSystem then
        ((.error (.writeFailed context p.port f) : Except Error Int),
          r'.note (.portWriteFailed context p.port f))
        else (.error (.fault f), r')).1 = .error e) : r.Explains e := by
    split at failed
    · cases failed
      exact Or.inl rfl
    · next foreign =>
      cases failed
      exact Or.inr ⟨f, rfl, Bool.eq_false_iff.mpr foreign, raises⟩
  unfold write at failed
  split at failed
  · cases failed
    exact Or.inl rfl
  · dsimp only at failed
    cases written : (r.device p.port).fault .write with
    | some f =>
      rw [written] at failed
      exact passed ⟨p.port, .write, by decide, written⟩ failed
    | none =>
      rw [written] at failed
      dsimp only at failed
      cases flushed : (r.device p.port).fault .flush with
      | some f =>
        rw [flushed] at failed
        exact passed ⟨p.port, .flush, by decide, flushed⟩ failed
      | none =>
        rw [flushed] at failed
        dsimp only at failed
        split at failed
        · cases failed
        · cases failed
          exact Or.inl rfl

end SerialPort

namespace Link

/-- A link that is a serial port. -/
def IsSerial : Link → Prop
  | .plain _ _ _ => False
  | .serial _ => True

theorem explains_connect {link : Link} (serial : link.IsSerial) (context : String) (r : Rack) :
    r.SameFaults (link.connect context r).2
      ∧ (∀ held, (link.connect context r).1 = .ok held → held.IsSerial)
      ∧ ∀ e, (link.connect context r).1 = .error e → r.Explains e := by
  cases link with
  | plain endpoint baud bits => exact serial.elim
  | serial p =>
    obtain ⟨same, explains⟩ := p.explains_connect context r
    unfold connect
    dsimp only
    rcases connected : p.connect context r with ⟨e | held, later⟩ <;>
      rw [connected] at same explains
    · refine ⟨same, fun held opened => (nomatch opened), fun e' failed => ?_⟩
      cases failed
      exact explains e rfl
    · refine ⟨same, fun link opened => ?_, fun e failed => (nomatch failed)⟩
      cases opened
      exact trivial

theorem explains_write {link : Link} (serial : link.IsSerial) {payload : Bytes} {context : String}
    {r : Rack} {e : Error} (failed : (link.write payload context r).1 = .error e) :
    r.Explains e := by
  cases link with
  | plain endpoint baud bits => exact serial.elim
  | serial p => exact SerialPort.explains_write failed

end Link

theorem isBench_of_devicePath {channels : Channels} {environ : Table String} {channel : Argument}
    {e : Error} (missing : devicePath channels environ channel = .error e) : e.isBench = true := by
  unfold devicePath variableValue at missing
  split at missing
  · cases missing
    rfl
  · cases missing
    rfl
  · split at missing
    · cases missing
    · cases missing
      rfl

namespace Registry

variable {g : Registry} {e : Error}

theorem makeLink_serial (serial : g.serial = true) (endpoint : String) (baud bits : Whole) :
    (∀ e, g.makeLink endpoint baud bits = .error e → e.isBench = true)
      ∧ ∀ link, g.makeLink endpoint baud bits = .ok link → link.IsSerial := by
  unfold makeLink Link.makeSerial
  rw [serial, if_pos rfl]
  cases made : SerialPort.make endpoint (.whole baud) (.number (.whole bits))
    SerialPort.defaultParity (.number (.whole SerialPort.defaultStopBits))
    (some (.whole SerialPort.defaultWriteTimeout)) with
  | error e =>
    refine ⟨fun e' refused => ?_, fun link same => (nomatch same)⟩
    cases refused
    exact SerialPort.isBench_of_make made
  | ok p =>
    refine ⟨fun e refused => (nomatch refused), fun link same => ?_⟩
    cases same
    exact trivial

/-- One more channel is open, with a buffer that has received nothing. -/
structure Adds (g g' : Registry) (name : String) (c : Channel) : Prop where
  opened : g'.opened = g.opened ++ [c]
  named : c.name = name
  buffer : g'.bench.buffer c.buffer = .empty name

theorem Adds.active {g' : Registry} {name : String} {c : Channel} (adds : g.Adds g' name c)
    (closed : g.opened = []) : g'.active name = .ok c := by
  have found : g'.find? name = some c := by
    rw [find?, adds.opened, closed, List.nil_append, List.find?_singleton]
    exact if_pos (beq_iff_eq.mpr adds.named)
  rw [Registry.active, found]

theorem enrol_of_running (running : g.bench.scheduler.isRunning = true) (name : String)
    (link : Link) : (∃ c, (g.enrol name link).1 = .ok c ∧ c.link = link
        ∧ g.Adds (g.enrol name link).2 name c)
      ∧ (g.enrol name link).2.bench.toRack = g.bench.toRack := by
  rw [enrol_eq, if_pos running]
  refine ⟨⟨_, rfl, rfl, rfl, rfl, ?_⟩, rfl⟩
  change ((g.bench.buffers ++ [.empty name])[g.bench.buffers.length]?).getD (.empty "") = _
  rw [List.getElem?_concat_length, Option.getD_some]

/-- A channel that was opened is one more. -/
theorem adds_openChannel {later : Registry} {name : String} {baud bits : Whole} {c : Channel}
    (opened : g.openChannel name baud bits = (.ok c, later)) : g.Adds later name c := by
  rcases g.openChannel_cases name baud bits with
    ⟨e, notices, failed⟩ | ⟨-, link, r, -, ⟨e, -, failed⟩ | ⟨held, -, made⟩⟩
  · cases failed.symm.trans opened
  · cases failed.symm.trans opened
  · rw [opened] at made
    by_cases running : (g.linkMade r).bench.scheduler.isRunning = true
    · obtain ⟨⟨c', enrolled, -, adds⟩, -⟩ := enrol_of_running running name held
      rw [← made] at enrolled adds
      cases enrolled
      exact ⟨adds.opened, adds.named, adds.buffer⟩
    · rw [enrol_eq, if_neg running] at made
      cases made

/-- Opening a channel on a serial port while the thread runs fails with an error of the bench, or
passes the fault of its device on. -/
theorem explains_openChannel (serial : g.serial = true)
    (running : g.bench.scheduler.isRunning = true) (name : String) (baud bits : Whole) :
    g.bench.toRack.SameFaults (g.openChannel name baud bits).2.bench.toRack
      ∧ (∀ c, (g.openChannel name baud bits).1 = .ok c →
        c.link.IsSerial ∧ g.Adds (g.openChannel name baud bits).2 name c)
      ∧ ∀ e, (g.openChannel name baud bits).1 = .error e → g.bench.toRack.Explains e := by
  have own {e : Error} (bench : e.isBench = true) :
      ∀ e', (Except.error e : Except Error Channel) = .error e' → g.bench.toRack.Explains e' := by
    intro e' same
    cases same
    exact Or.inl bench
  unfold openChannel
  split
  · exact ⟨fun _ => rfl, fun c opened => (nomatch opened), own rfl⟩
  · dsimp only
    cases found : devicePath g.channels g.environ name with
    | error e =>
      refine ⟨fun endpoint => ?_, fun c opened => (nomatch opened),
        own (isBench_of_devicePath found)⟩
      exact congrArg Device.fault (Rack.device_congr (devices_note_foldl _ g.bench) endpoint)
    | ok endpoint =>
      obtain ⟨refused, isSerial⟩ := makeLink_serial serial endpoint baud bits
      dsimp only
      cases made : g.makeLink endpoint baud bits with
      | error e => exact ⟨fun _ => rfl, fun c opened => (nomatch opened), own (refused e made)⟩
      | ok link =>
        obtain ⟨same, kind, explains⟩ :=
          Link.explains_connect (isSerial link made) ("open " ++ name) g.bench.toRack
        dsimp only
        rcases connected : link.connect ("open " ++ name) g.bench.toRack with ⟨e | held, r⟩ <;>
          rw [connected] at same kind explains
        · refine ⟨same, fun c opened => (nomatch opened), fun e' failed => ?_⟩
          cases failed
          exact explains e rfl
        · obtain ⟨⟨c, enrolled, its, adds⟩, rack⟩ :=
            enrol_of_running (g := g.linkMade r) running name held
          refine ⟨?_, fun d opened => ?_, fun e failed => ?_⟩
          · exact (congrArg (g.bench.toRack.SameFaults ·) rack).mpr same
          · obtain rfl : c = d := Except.ok.inj (enrolled.symm.trans opened)
            exact ⟨its ▸ kind held rfl, adds.opened, adds.named, adds.buffer⟩
          · rw [enrolled] at failed
            cases failed

theorem isBench_of_active {name : String} (closed : g.active name = .error e) :
    e.isBench = true := by
  unfold Registry.active at closed
  split at closed
  · cases closed
  · cases closed
    rfl

theorem explains_write (serial : ∀ c ∈ g.opened, c.link.IsSerial) {name : String} {data : Data}
    (failed : (g.write name data).1 = .error e) : g.bench.toRack.Explains e := by
  unfold write at failed
  cases active : g.active name with
  | error e' =>
    rw [active] at failed
    cases failed
    exact Or.inl (isBench_of_active active)
  | ok c =>
    rw [active] at failed
    exact Link.explains_write (serial c (mem_of_active active).1) failed

theorem isBench_of_closeAll (failed : g.closeAll.1 = .error e) : e.isBench = true := by
  unfold closeAll at failed
  dsimp only at failed
  split at failed
  · cases failed
  · cases failed
    rfl

end Registry

end AcceptanceBench
