import AcceptanceBench.Proofs.Obstacle

/-!
Opening a channel. It succeeds exactly if nothing stands in the way; else all is as it was, so that
nothing but the obstacles has to be removed before the next attempt. The error tells the obstacle
that was met first, unless undoing the opening fails as well: a device that raises a fault when it
is closed hides that the scheduler is not running.
-/

namespace AcceptanceBench

/-- The name of the error that tells an obstacle, where links are serial ports. -/
def Obstacle.errorName : Obstacle → String
  | .taken => "AlreadyOpenError"
  | .unconfigured => "UnknownChannelError"
  | .unset => "MissingConfigError"
  | .refused | .shut => "SerialCommunicationError"
  | .idle => "SchedulerError"

namespace Registry

variable {g g' : Registry} {name : String} {baud bits : Whole} {o : Obstacle} {e : Error}

/-- A failed opening has left nothing behind: channels, buffers and subscriptions are as they were,
and so are all devices, but that the channel's own device may have been opened and closed again. One
more link may have been made, and notices may have been logged. -/
structure Undone (g g' : Registry) (name : String) : Prop where
  rest : g' = { g with made := g'.made, bench := { g.bench with toRack := g'.bench.toRack } }
  ports : g'.bench.ports = g.bench.ports
  others : ∀ endpoint, g.pathOf name ≠ some endpoint →
    g'.bench.device endpoint = g.bench.device endpoint
  own : ∀ path, g.pathOf name = some path → g'.bench.device path = g.bench.device path
    ∨ ∃ opening, g'.bench.device path = ((g.bench.device path).opened opening).closed

theorem undone_of_devices {r : Rack} (devices : r.devices = g.bench.devices)
    (ports : r.ports = g.bench.ports) (made : Nat) (name : String) :
    g.Undone { g with made, bench := { g.bench with toRack := r } } name :=
  ⟨rfl, ports, fun endpoint _ => Rack.device_congr devices endpoint,
    fun path _ => Or.inl (Rack.device_congr devices path)⟩

theorem undone_notes (g : Registry) (notices : List Notice) (name : String) :
    g.Undone (g.onBench fun b => notices.foldl (fun b n => b.note n) b) name := by
  unfold onBench
  dsimp only
  rw [Bench.foldl_note]
  exact ⟨rfl, rfl, fun _ _ => rfl, fun _ _ => Or.inl rfl⟩

theorem Fails.undone (fails : g.Fails name o e g') : g.Undone g' name := by
  cases fails with
  | taken => exact undone_of_devices rfl rfl g.made name
  | unconfigured names notices => exact g.undone_notes notices name
  | unset v notices => exact g.undone_notes notices name
  | refused own => exact undone_of_devices rfl rfl g.made name
  | shut devices ports own => exact undone_of_devices devices ports (g.made + 1) name
  | @idle path found opening =>
    refine ⟨rfl, rfl, fun endpoint other => ?_, fun path' same => Or.inr ⟨opening, ?_⟩⟩
    · have apart : endpoint ≠ path := fun same => other (same ▸ found)
      change (((g.bench.toRack.alter path _).alter path _).device endpoint) = _
      rw [Rack.device_alter, if_neg apart, Rack.device_alter, if_neg apart]
    · obtain rfl : path = path' := Option.some.inj (found.symm.trans same)
      change (((g.bench.toRack.alter path _).alter path _).device path) = _
      rw [Rack.device_alter, if_pos rfl, Rack.device_alter, if_pos rfl]

theorem Undone.fault (undone : g.Undone g' name) (endpoint : String) :
    (g'.bench.device endpoint).fault = (g.bench.device endpoint).fault := by
  by_cases own : g.pathOf name = some endpoint
  · rcases undone.own endpoint own with same | ⟨opening, tried⟩
    · rw [same]
    · rw [tried]
      rfl
  · rw [undone.others endpoint own]

/-- A failed opening puts nothing in the way: for every channel, the same obstacles stand as
before. -/
theorem Undone.stands (undone : g.Undone g' name) (name' : String) (baud bits : Whole) :
    g'.stands name' baud bits = g.stands name' baud bits := by
  have names : g'.openNames = g.openNames := (congrArg openNames undone.rest).trans rfl
  have serial : g'.serial = g.serial := (congrArg Registry.serial undone.rest).trans rfl
  have scheduler : g'.bench.scheduler = g.bench.scheduler :=
    (congrArg (·.bench.scheduler) undone.rest).trans rfl
  have source : g'.variableOf name' = g.variableOf name' :=
    (congrArg (variableOf · name') undone.rest).trans rfl
  have path : g'.pathOf name' = g.pathOf name' :=
    (congrArg (pathOf · name') undone.rest).trans rfl
  have raises (stage : Stage) : g'.raisesAt name' stage = g.raisesAt name' stage := by
    unfold raisesAt
    simp only [path, undone.fault]
  funext o
  unfold Registry.stands
  rw [names, serial, scheduler, source, path]
  simp only [raises]

/-- In every state, an opening fails if and only if an obstacle stands in its way. A failed opening
is undone, and the same obstacles stand as before; as soon as none stands in the way of the channel,
it is opened with an empty buffer. -/
theorem openChannel_atomic (g : Registry) (name : String) (baud bits : Whole) :
    let outcome := g.openChannel name baud bits
    ((∃ e, outcome.1 = .error e) ↔ ∃ o, g.stands name baud bits o = true)
      ∧ (∀ e, outcome.1 = .error e → g.Undone outcome.2 name
        ∧ ∀ name' baud' bits', outcome.2.stands name' baud' bits' = g.stands name' baud' bits')
      ∧ ∀ (later : Registry) (baud' bits' : Whole),
        (∀ o, later.stands name baud' bits' o = false) →
        ∃ c, (later.openChannel name baud' bits').1 = .ok c
          ∧ later.Adds (later.openChannel name baud' bits').2 name c := by
  intro outcome
  refine ⟨⟨?_, ?_⟩, ?_, ?_⟩
  · rintro ⟨e, failed⟩
    obtain ⟨o, met, -⟩ := fails_of_error failed
    exact ⟨o, (stands_of_obstacle? met).1⟩
  · rintro ⟨o, stands⟩
    cases met : g.obstacle? name baud bits with
    | none => cases stands.symm.trans (obstacle?_eq_none_iff.mp met o)
    | some first =>
      obtain ⟨e, g', failed, -⟩ := openChannel_fails met
      exact ⟨e, congrArg Prod.fst failed⟩
  · intro e failed
    obtain ⟨o, -, fails⟩ := fails_of_error failed
    exact ⟨fails.undone, fails.undone.stands⟩
  · intro later baud' bits' clear
    exact openChannel_of_clear (obstacle?_eq_none_iff.mpr clear)

/-- A bench whose scheduler was never started, and a device that cannot be closed. -/
def jammed : Registry :=
  (make none (.ofList [("HIL_SERIAL_DEV", "/dev/a")]) true (.make [] .usual)).onBench
    (·.onRack (·.alter "/dev/a" (.setFault .close (some ⟨.serialPort, "stuck"⟩))))

/-- Though closing the device fails as well, nothing is left of the opening, and it succeeds once
the scheduler runs. -/
theorem openChannel_atomic_jammed :
    let failed := jammed.openChannel "Serial" 9600 8
    let started := (failed.2.perform .start).2
    failed.1 = .error (.fault ⟨.serialPort, "stuck"⟩) ∧ jammed.Undone failed.2 "Serial"
      ∧ ∃ c, (started.openChannel "Serial" 9600 8).1 = .ok c
        ∧ started.Adds (started.openChannel "Serial" 9600 8).2 "Serial" c := by
  intro failed started
  have error : failed.1 = .error (.fault ⟨.serialPort, "stuck"⟩) := by decide +kernel
  obtain ⟨-, undone, opens⟩ := openChannel_atomic jammed "Serial" 9600 8
  have clear : ∀ o, started.stands "Serial" 9600 8 o = false := by
    intro o
    cases o <;> decide +kernel
  exact ⟨error, (undone _ error).1, opens started 9600 8 clear⟩

/-! ### What the error tells -/

/-- An opening succeeds, or its error tells the obstacle that was met first. -/
def NamesCause (g : Registry) (name : String) (baud bits : Whole) : Prop :=
  match g.obstacle? name baud bits with
  | none => ∃ c, (g.openChannel name baud bits).1 = .ok c
  | some o => ∃ e, (g.openChannel name baud bits).1 = .error e ∧ e.name = o.errorName

/-- The error tells the obstacle, or it is the fault that the device raises when it is closed. -/
theorem Fails.told (fails : g.Fails name o e g') (serial : g.serial = true)
    (system : g.SystemFaults name) :
    if o = .idle ∧ g.raisesAt name .close = true then
      ∃ f, e = .fault f ∧ f.kind.isSystem = true
    else e.name = o.errorName := by
  cases fails with
  | taken => exact rfl
  | unconfigured names notices => exact rfl
  | unset v notices => exact rfl
  | refused own => exact own serial
  | shut devices ports own => exact own serial system
  | @idle path found opening =>
    rw [raisesAt_eq found]
    cases close : (g.bench.device path).fault .close with
    | none => exact rfl
    | some f => exact ⟨f, rfl, system path .close f found close⟩

/-- No fault of the system passes for an error of the scheduler. -/
theorem name_ne_of_isSystem {kind : FaultKind} (system : kind.isSystem = true) :
    kind.name ≠ Obstacle.idle.errorName := by
  cases kind with
  | system => decide
  | serialPort => decide
  | serialTimeout => decide
  | _ => cases system

/-- On serial ports, where the devices raise faults of the system only, the error of an opening
tells the obstacle that was met first, unless this is that the scheduler does not run and the device
raises a fault when it is closed again. -/
theorem namesCause_iff (serial : g.serial = true) (system : g.SystemFaults name)
    (baud bits : Whole) :
    g.NamesCause name baud bits
      ↔ ¬ (g.obstacle? name baud bits = some .idle ∧ g.raisesAt name .close = true) := by
  unfold NamesCause
  cases met : g.obstacle? name baud bits with
  | none =>
    obtain ⟨c, opened, -⟩ := openChannel_of_clear met
    exact iff_of_true ⟨c, opened⟩ nofun
  | some o =>
    obtain ⟨e, g', failed, fails⟩ := openChannel_fails met
    have told := fails.told serial system
    rw [failed]
    by_cases hidden : o = .idle ∧ g.raisesAt name .close = true
    · rw [if_pos hidden] at told
      obtain ⟨f, rfl, system⟩ := told
      obtain ⟨rfl, raises⟩ := hidden
      refine iff_of_false ?_ (not_not.mpr ⟨rfl, raises⟩)
      rintro ⟨e, same, named⟩
      cases same
      exact name_ne_of_isSystem system named
    · rw [if_neg hidden] at told
      refine iff_of_true ⟨e, rfl, told⟩ ?_
      rintro ⟨same, raises⟩
      exact hidden ⟨Option.some.inj same, raises⟩

/-- Though the scheduler does not run, and the device could not be closed, it is the rate that is
told. -/
theorem namesCause_jammed :
    jammed.serial = true ∧ jammed.SystemFaults "Serial" ∧ jammed.stands "Serial" 0 8 .idle = true
      ∧ jammed.raisesAt "Serial" .close = true
      ∧ ∃ e, (jammed.openChannel "Serial" 0 8).1 = .error e
        ∧ e.name = "SerialCommunicationError" := by
  have path : jammed.pathOf "Serial" = some "/dev/a" := by decide +kernel
  have system : jammed.SystemFaults "Serial" := by
    intro path' stage f found fault
    obtain rfl := Option.some.inj (path.symm.trans found)
    change (if stage = .close then some ⟨.serialPort, "stuck"⟩ else none) = some f at fault
    split at fault
    · cases fault
      rfl
    · cases fault
  have rate : jammed.obstacle? "Serial" 0 8 = some .refused := by decide +kernel
  have told : jammed.NamesCause "Serial" 0 8 := by
    refine (namesCause_iff rfl system 0 8).mpr ?_
    rintro ⟨idle, -⟩
    cases rate.symm.trans idle
  rw [NamesCause, rate] at told
  exact ⟨rfl, system, by decide +kernel, by decide +kernel, told⟩

/-- A fault of closing the device hides that the scheduler does not run. -/
theorem not_namesCause_jammed : ¬ jammed.NamesCause "Serial" 9600 8 := by
  have idle : jammed.obstacle? "Serial" 9600 8 = some .idle := by decide +kernel
  have hidden : (jammed.openChannel "Serial" 9600 8).1
      = .error (.fault ⟨.serialPort, "stuck"⟩) := by
    decide +kernel
  rw [NamesCause, idle]
  rintro ⟨e, failed, named⟩
  cases hidden.symm.trans failed
  exact absurd named (by decide)

end Registry

end AcceptanceBench
