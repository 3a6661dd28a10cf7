import AcceptanceBench.Proofs.Blame
import AcceptanceBench.Proofs.Closing
import AcceptanceBench.Proofs.WholeValue

/-!
What may stand in the way of opening a channel. Each obstacle is a condition of its own, and several
may stand at once; they are met in a fixed order, and the first one decides how the opening fails.
-/

namespace AcceptanceBench

/-- What may stand in the way of opening a channel. -/
inductive Obstacle where
  /-- A channel of that name is open. -/
  | taken
  /-- No channel of that name is configured. -/
  | unconfigured
  /-- The variable of the channel is not defined. -/
  | unset
  /-- A line setting is not supported; a device with a plain link may refuse the link. -/
  | refused
  /-- The device cannot be opened. -/
  | shut
  /-- The thread of the scheduler does not run. -/
  | idle
  deriving Repr, DecidableEq

/-- The obstacles in the order in which they are met. -/
def Obstacle.inOrder : List Obstacle :=
  [.taken, .unconfigured, .unset, .refused, .shut, .idle]

theorem Obstacle.mem_inOrder (o : Obstacle) : o ∈ inOrder := by
  cases o <;> decide

/-- The first of a list that has a property comes after others that do not have it. -/
theorem of_find?_eq_some {α : Type} [DecidableEq α] {p : α → Bool} {l : List α} {a : α}
    (found : l.find? p = some a) : p a = true ∧ ∀ b ∈ l.takeWhile (· ≠ a), p b = false := by
  induction l with
  | nil => cases found
  | cons x rest ih =>
    rw [List.find?_cons] at found
    cases holds : p x with
    | true =>
      rw [holds] at found
      cases found
      simp [holds]
    | false =>
      rw [holds] at found
      obtain ⟨last, earlier⟩ := ih found
      refine ⟨last, fun b before => ?_⟩
      rw [List.takeWhile_cons] at before
      split at before
      · rcases List.mem_cons.mp before with rfl | before
        · exact holds
        · exact earlier b before
      · cases before

namespace Registry

/-- The variable that is configured for a channel. -/
def variableOf (g : Registry) (name : String) : Option Argument :=
  match g.channels.get? name with
  | none | some .absent => none
  | some v => some v

/-- The path that the variable of a channel holds. -/
def pathOf (g : Registry) (name : String) : Option String :=
  (g.variableOf name).bind fun v => v.text?.bind g.environ.get?

/-- Whether the device of a channel raises a fault at some stage. -/
def raisesAt (g : Registry) (name : String) (stage : Stage) : Bool :=
  (g.pathOf name).any fun path => ((g.bench.device path).fault stage).isSome

/-- Whether an obstacle stands in the way of opening a channel. -/
def stands (g : Registry) (name : String) (baud bits : Whole) : Obstacle → Bool
  | .taken => decide (name ∈ g.openNames)
  | .unconfigured => (g.variableOf name).isNone
  | .unset => (g.pathOf name).isNone
  | .refused =>
    if g.serial then decide (baud.toInt ≤ 0 ∨ bits.toInt ∉ [5, 6, 7, 8])
    else g.raisesAt name .factory
  | .shut => g.raisesAt name .openStage
  | .idle => !g.bench.scheduler.isRunning

/-- The obstacle that is met first. -/
def obstacle? (g : Registry) (name : String) (baud bits : Whole) : Option Obstacle :=
  Obstacle.inOrder.find? (g.stands name baud bits)

variable {g : Registry} {name path : String} {baud bits : Whole}

theorem stands_of_obstacle? {o : Obstacle} (met : g.obstacle? name baud bits = some o) :
    g.stands name baud bits o = true
      ∧ ∀ o' ∈ Obstacle.inOrder.takeWhile (· ≠ o), g.stands name baud bits o' = false :=
  of_find?_eq_some met

theorem obstacle?_eq_none_iff :
    g.obstacle? name baud bits = none ↔ ∀ o, g.stands name baud bits o = false := by
  unfold obstacle?
  rw [List.find?_eq_none]
  constructor
  · intro clear o
    exact Bool.eq_false_iff.mpr (clear o o.mem_inOrder)
  · intro clear o _
    exact Bool.eq_false_iff.mp (clear o)

/-! ### Finding the device -/

theorem devicePath_of_unconfigured (missing : g.variableOf name = none) :
    ∃ names, devicePath g.channels g.environ name = .error (.unknownChannel name names) := by
  have asked : (Argument.text name).text?.bind g.channels.get? = g.channels.get? name := rfl
  unfold variableOf at missing
  unfold devicePath
  rw [asked]
  rcases configured : g.channels.get? name with _ | _ | v | _
  · exact ⟨_, rfl⟩
  · rw [configured] at missing
    cases missing
  · rw [configured] at missing
    cases missing
  · exact ⟨_, rfl⟩

theorem devicePath_of_configured {v : Argument} (configured : g.variableOf name = some v) :
    devicePath g.channels g.environ name = variableValue g.environ v := by
  have asked : (Argument.text name).text?.bind g.channels.get? = g.channels.get? name := rfl
  unfold variableOf at configured
  unfold devicePath
  rw [asked]
  rcases entry : g.channels.get? name with _ | _ | v' | _ <;> rw [entry] at configured <;>
    cases configured
  · rfl
  · rfl

theorem pathOf_of_configured {v : Argument} (configured : g.variableOf name = some v) :
    g.pathOf name = v.text?.bind g.environ.get? := by
  rw [pathOf, configured, Option.bind_some]

theorem devicePath_of_unset {v : Argument} (configured : g.variableOf name = some v)
    (missing : g.pathOf name = none) :
    devicePath g.channels g.environ name = .error (.missingVariable v) := by
  rw [pathOf_of_configured configured] at missing
  rw [devicePath_of_configured configured, variableValue, missing]

theorem devicePath_of_pathOf (found : g.pathOf name = some path) :
    devicePath g.channels g.environ name = .ok path := by
  cases configured : g.variableOf name with
  | none =>
    rw [pathOf, configured] at found
    cases found
  | some v =>
    rw [pathOf_of_configured configured] at found
    rw [devicePath_of_configured configured, variableValue, found]

end Registry

/-! ### Making a link -/

open SerialPort (lineSetting)

/-- A whole number is chosen if it is one of those supported. -/
theorem choose?_whole (w : Whole) {supported : List Int}
    (small : ∀ k ∈ supported, k.natAbs < 2 ^ 53) :
    SerialPort.choose? supported (.number (.whole w))
      = if w.toInt ∈ supported then some w.toInt else none := by
  unfold SerialPort.choose?
  dsimp only
  induction supported with
  | nil => rfl
  | cons k rest ih =>
    have equal := Numeral.value_whole_eq_iff w (small k List.mem_cons_self)
    rw [List.find?_cons]
    by_cases same : w.toInt = k
    · rw [beq_iff_eq.mpr (equal.mpr same), if_pos (List.mem_cons.mpr (Or.inl same)), same]
    · rw [beq_eq_false_iff_ne.mpr (mt equal.mp same), ih fun k there => small k (.tail _ there)]
      simp only [List.mem_cons, same, false_or]

theorem lineSetting_bits (bits : Whole) (port : String) :
    lineSetting "bytesize" (.number (.whole bits)) [5, 6, 7, 8] port
      = if bits.toInt ∈ [5, 6, 7, 8] then .ok bits.toInt
        else .error (.badLineSetting "bytesize" bits.literal port ["5", "6", "7", "8"]) := by
  unfold lineSetting
  rw [choose?_whole bits (by decide)]
  by_cases supported : bits.toInt ∈ [5, 6, 7, 8]
  · rw [if_pos supported, if_pos supported]
  · rw [if_neg supported, if_neg supported]
    rfl

theorem lineSetting_stopBits (port : String) :
    lineSetting "stopbits" (.number (.whole SerialPort.defaultStopBits)) [1, 2] port = .ok 1 := by
  unfold lineSetting
  rw [choose?_whole _ (by decide)]
  rfl

theorem paritySetting_default (port : String) :
    SerialPort.paritySetting SerialPort.defaultParity port = .ok "N" := by
  have upper : Text.upper SerialPort.defaultParity = "N" := by decide +kernel
  unfold SerialPort.paritySetting
  rw [upper]
  rfl

/-- A serial link can be made exactly with a positive rate and data bits that are supported. -/
theorem Link.makeSerial_cases (path : String) (baud bits : Whole) :
    if baud.toInt ≤ 0 ∨ bits.toInt ∉ [5, 6, 7, 8] then
      ∃ e, makeSerial path baud bits = .error e ∧ e.name = "SerialCommunicationError"
    else ∃ p, makeSerial path baud bits = .ok (.serial p) ∧ p.port = path := by
  have patient : ¬ (Numeral.whole SerialPort.defaultWriteTimeout).value < 0 := by decide +kernel
  unfold makeSerial SerialPort.make
  by_cases rate : baud.toInt ≤ 0
  · rw [if_pos (Or.inl rate)]
    have refused := (Numeral.value_whole_nonpos_iff baud).mpr rate
    simp only [refused, if_true]
    exact ⟨_, rfl, rfl⟩
  · have accepted : ¬ (Numeral.whole baud).value ≤ 0 := by
      rwa [Numeral.value_whole_nonpos_iff]
    have setting := lineSetting_bits bits path
    simp only [accepted, patient, if_false]
    by_cases supported : bits.toInt ∈ [5, 6, 7, 8]
    · rw [if_neg (not_or.mpr ⟨rate, not_not.mpr supported⟩)]
      rw [if_pos supported] at setting
      rw [setting, paritySetting_default, lineSetting_stopBits]
      exact ⟨_, rfl, rfl⟩
    · rw [if_pos (Or.inr supported)]
      rw [if_neg supported] at setting
      rw [setting]
      exact ⟨_, rfl, rfl⟩

namespace Registry

variable {g : Registry} {name path : String} {baud bits : Whole}

/-- How making a link to a channel's device goes. -/
theorem makeLink_cases (found : g.pathOf name = some path) (baud bits : Whole) :
    if g.stands name baud bits .refused = true then
      ∃ e, g.makeLink path baud bits = .error e
        ∧ (g.serial = true → e.name = "SerialCommunicationError")
    else ∃ link, g.makeLink path baud bits = .ok link ∧ link.endpoint = path
      ∧ (g.serial = true → link.IsSerial) := by
  unfold makeLink stands raisesAt
  rw [found]
  cases serial : g.serial with
  | true =>
    have cases := Link.makeSerial_cases path baud bits
    simp only [if_true, decide_eq_true_eq]
    split at cases
    · next refused =>
      obtain ⟨e, made, name⟩ := cases
      rw [if_pos refused]
      exact ⟨e, made, fun _ => name⟩
    · next accepted =>
      obtain ⟨p, made, port⟩ := cases
      rw [if_neg accepted]
      exact ⟨.serial p, made, port, fun _ => trivial⟩
  | false =>
    simp only [Bool.false_eq_true, if_false, Option.any_some]
    unfold Link.makePlain
    cases (g.bench.device path).fault .factory with
    | none => exact ⟨_, rfl, rfl, nofun⟩
    | some f => exact ⟨_, rfl, nofun⟩

end Registry

/-- A port that the system does not open reports that as its own failure. -/
theorem SerialPort.name_of_connect {p : SerialPort} {context : String} {r r' : Rack} {e : Error}
    (system : ∀ f, (r.device p.port).fault .openStage = some f → f.kind.isSystem = true)
    (failed : p.connect context r = (.error e, r')) : e.name = "SerialCommunicationError" := by
  unfold connect at failed
  split at failed
  · cases failed
  · cases fault : (r.device p.port).fault .openStage with
    | none =>
      rw [fault] at failed
      cases failed
    | some f =>
      rw [fault] at failed
      dsimp only at failed
      rw [if_pos (system f fault)] at failed
      cases failed
      rfl

theorem Link.name_of_connect {link : Link} (serial : link.IsSerial) {context : String} {r r' : Rack}
    {e : Error} (system : ∀ f, (r.device link.endpoint).fault .openStage = some f →
      f.kind.isSystem = true) (failed : link.connect context r = (.error e, r')) :
    e.name = "SerialCommunicationError" := by
  cases link with
  | plain endpoint baud bits => exact serial.elim
  | serial p =>
    unfold connect at failed
    dsimp only at failed
    rcases connected : p.connect context r with ⟨e' | held, later⟩
    · rw [connected] at failed
      cases failed
      exact SerialPort.name_of_connect system connected
    · rw [connected] at failed
      cases failed

namespace Registry

/-- The faults that the device of a channel raises are of the system. -/
def SystemFaults (g : Registry) (name : String) : Prop :=
  ∀ path stage f, g.pathOf name = some path → (g.bench.device path).fault stage = some f →
    f.kind.isSystem = true

/-- How an opening fails over an obstacle: with which error, and in which state. -/
inductive Fails (g : Registry) (name : String) : Obstacle → Error → Registry → Prop
  | taken : Fails g name .taken (.alreadyOpen name) g
  | unconfigured (names : List String) (notices : List Notice) :
    Fails g name .unconfigured (.unknownChannel name names)
      (g.onBench fun b => notices.foldl (fun b n => b.note n) b)
  | unset (v : Argument) (notices : List Notice) :
    Fails g name .unset (.missingVariable v)
      (g.onBench fun b => notices.foldl (fun b n => b.note n) b)
  | refused {e : Error} (own : g.serial = true → e.name = "SerialCommunicationError") :
    Fails g name .refused e g
  | shut {e : Error} {r : Rack} (devices : r.devices = g.bench.devices)
    (ports : r.ports = g.bench.ports)
    (own : g.serial = true → g.SystemFaults name → e.name = "SerialCommunicationError") :
    Fails g name .shut e (g.linkMade r)
  | idle {path : String} (found : g.pathOf name = some path) (opening : Opening) :
    Fails g name .idle
      ((((g.bench.device path).fault .close).map Error.fault).getD
        (.notRunning (if name = "" then path else name) g.bench.scheduler.threadName))
      (g.linkMade ((g.bench.toRack.alter path (.opened opening)).alter path .closed))

variable {g : Registry} {name path : String} {baud bits : Whole} {o : Obstacle}

theorem isOpen_iff (g : Registry) (name : String) : g.isOpen name = true ↔ name ∈ g.openNames := by
  simp [isOpen, find?, openNames]

/-- Once a link is made, it is connected and then enrolled. -/
theorem openChannel_of_made {link : Link} (free : name ∉ g.openNames)
    (found : g.pathOf name = some path) (made : g.makeLink path baud bits = .ok link) :
    g.openChannel name baud bits
      = match link.connect ("open " ++ name) g.bench.toRack with
        | (.error e, r) => (.error e, g.linkMade r)
        | (.ok held, r) => (g.linkMade r).enrol name held := by
  unfold openChannel
  rw [if_neg (mt (g.isOpen_iff name).mp free), devicePath_of_pathOf found]
  dsimp only
  rw [made]
  dsimp only
  rcases link.connect ("open " ++ name) g.bench.toRack with ⟨_ | held, r⟩ <;> rfl

/-- Where no obstacle stands up to the link, the link is made. -/
theorem exists_made (set : g.stands name baud bits .unset = false)
    (accepted : g.stands name baud bits .refused = false) :
    ∃ path link, g.pathOf name = some path ∧ g.makeLink path baud bits = .ok link
      ∧ link.endpoint = path ∧ link.IsNew ∧ (g.serial = true → link.IsSerial) := by
  obtain ⟨path, found⟩ := Option.isSome_iff_exists.mp (Option.isNone_eq_false_iff.mp set)
  have made := makeLink_cases found baud bits
  rw [if_neg (Bool.eq_false_iff.mp accepted)] at made
  obtain ⟨link, made, endpoint, serial⟩ := made
  exact ⟨path, link, found, made, endpoint, isNew_makeLink made, serial⟩

theorem raisesAt_eq (found : g.pathOf name = some path) (stage : Stage) :
    g.raisesAt name stage = ((g.bench.device path).fault stage).isSome := by
  rw [raisesAt, found, Option.any_some]

/-- Where no obstacle stands up to the device, the device is opened. -/
theorem exists_connected (free : name ∉ g.openNames) (set : g.stands name baud bits .unset = false)
    (accepted : g.stands name baud bits .refused = false)
    (connects : g.stands name baud bits .shut = false) :
    ∃ path held opening, g.pathOf name = some path ∧ held.endpoint = path ∧ held.IsHeld
      ∧ g.openChannel name baud bits
        = (g.linkMade (g.bench.toRack.alter path (.opened opening))).enrol name held := by
  obtain ⟨path, link, found, made, rfl, new, -⟩ := exists_made set accepted
  have connected := Link.connect_cases new ("open " ++ name) g.bench.toRack
  have quiet : ((g.bench.device link.endpoint).fault .openStage).isSome = false :=
    (raisesAt_eq found .openStage).symm.trans connects
  rw [Option.isSome_eq_false_iff, Option.isNone_iff_eq_none] at quiet
  rw [quiet] at connected
  obtain ⟨held, opening, connected, endpoint, holds⟩ := connected
  refine ⟨_, held, opening, found, endpoint, holds, ?_⟩
  rw [openChannel_of_made free found made, connected]

/-- Where the thread does not run, the device is closed again; a fault that it raises then is
reported. -/
theorem enrol_of_stopped (stopped : g.bench.scheduler.isRunning = false) {held : Link}
    (holds : held.IsHeld) (opening : Opening) :
    (g.linkMade (g.bench.toRack.alter held.endpoint (.opened opening))).enrol name held
      = (.error ((((g.bench.device held.endpoint).fault .close).map Error.fault).getD
          (.notRunning (if name = "" then held.endpoint else name) g.bench.scheduler.threadName)),
        g.linkMade ((g.bench.toRack.alter held.endpoint (.opened opening)).alter held.endpoint
          .closed)) := by
  have idle : ¬ (g.linkMade (g.bench.toRack.alter held.endpoint
      (.opened opening))).bench.scheduler.isRunning = true := Bool.eq_false_iff.mp stopped
  have same : (g.bench.toRack.alter held.endpoint (.opened opening)).device held.endpoint
      = (g.bench.device held.endpoint).opened opening := by
    rw [Rack.device_alter, if_pos rfl]
  rw [enrol_eq, if_neg idle, Link.disconnect_of_held holds]
  change (Except.error (((((g.bench.toRack.alter held.endpoint (.opened opening)).device
    held.endpoint).fault .close).map Error.fault).getD _), _) = _
  rw [same]
  rfl

/-- An opening fails over the obstacle that is met first. -/
theorem openChannel_fails (met : g.obstacle? name baud bits = some o) :
    ∃ e g', g.openChannel name baud bits = (.error e, g') ∧ g.Fails name o e g' := by
  obtain ⟨stands, earlier⟩ := stands_of_obstacle? met
  have free (later : Obstacle.taken ∈ Obstacle.inOrder.takeWhile (· ≠ o)) : name ∉ g.openNames :=
    of_decide_eq_false (earlier .taken later)
  cases o with
  | taken =>
    have taken := (g.isOpen_iff name).mpr (of_decide_eq_true stands)
    exact ⟨_, _, if_pos taken, .taken⟩
  | unconfigured =>
    have missing : g.variableOf name = none := Option.isNone_iff_eq_none.mp stands
    obtain ⟨names, unknown⟩ := devicePath_of_unconfigured missing
    unfold openChannel
    rw [if_neg (mt (g.isOpen_iff name).mp (free (by decide))), unknown]
    exact ⟨_, _, rfl, .unconfigured names _⟩
  | unset =>
    have missing : g.pathOf name = none := Option.isNone_iff_eq_none.mp stands
    have configured : (g.variableOf name).isSome = true :=
      Option.isNone_eq_false_iff.mp (earlier .unconfigured (by decide))
    obtain ⟨v, configured⟩ := Option.isSome_iff_exists.mp configured
    unfold openChannel
    rw [if_neg (mt (g.isOpen_iff name).mp (free (by decide))),
      devicePath_of_unset configured missing]
    exact ⟨_, _, rfl, .unset v _⟩
  | refused =>
    have set : (g.pathOf name).isSome = true :=
      Option.isNone_eq_false_iff.mp (earlier .unset (by decide))
    obtain ⟨path, found⟩ := Option.isSome_iff_exists.mp set
    have made := makeLink_cases found baud bits
    rw [if_pos stands] at made
    obtain ⟨e, made, own⟩ := made
    unfold openChannel
    rw [if_neg (mt (g.isOpen_iff name).mp (free (by decide))), devicePath_of_pathOf found]
    dsimp only
    rw [made]
    exact ⟨e, g, rfl, .refused own⟩
  | shut =>
    obtain ⟨path, link, found, made, rfl, new, serial⟩ :=
      exists_made (earlier .unset (by decide)) (earlier .refused (by decide))
    have connects := Link.connect_cases new ("open " ++ name) g.bench.toRack
    obtain ⟨f, fault⟩ := Option.isSome_iff_exists.mp
      ((raisesAt_eq found .openStage).symm.trans stands)
    rw [fault] at connects
    obtain ⟨e, r, connected, devices, ports⟩ := connects
    rw [openChannel_of_made (free (by decide)) found made, connected]
    refine ⟨e, _, rfl, .shut devices ports fun isSerial system => ?_⟩
    exact Link.name_of_connect (serial isSerial) (fun f => system _ _ f found) connected
  | idle =>
    obtain ⟨path, held, opening, found, rfl, holds, opened⟩ :=
      exists_connected (free (by decide)) (earlier .unset (by decide))
        (earlier .refused (by decide))
        (earlier .shut (by decide))
    have stopped : g.bench.scheduler.isRunning = false := (Bool.not_eq_true' _).mp stands
    rw [opened, enrol_of_stopped stopped holds]
    exact ⟨_, _, rfl, .idle found opening⟩

/-- Where no obstacle stands, a channel is opened with an empty buffer. -/
theorem openChannel_of_clear (clear : g.obstacle? name baud bits = none) :
    ∃ c, (g.openChannel name baud bits).1 = .ok c
      ∧ g.Adds (g.openChannel name baud bits).2 name c := by
  rw [obstacle?_eq_none_iff] at clear
  obtain ⟨path, held, opening, found, -, -, opened⟩ :=
    exists_connected (of_decide_eq_false (clear .taken)) (clear .unset) (clear .refused)
      (clear .shut)
  have running : g.bench.scheduler.isRunning = true := (Bool.not_eq_false' _).mp (clear .idle)
  obtain ⟨⟨c, enrolled, -, adds⟩, -⟩ := enrol_of_running
    (g := g.linkMade (g.bench.toRack.alter path (.opened opening))) running name held
  rw [opened]
  exact ⟨c, enrolled, adds.opened, adds.named, adds.buffer⟩

/-- Whatever error an opening ends with, it has failed over the obstacle that is met first. -/
theorem fails_of_error {e : Error} (failed : (g.openChannel name baud bits).1 = .error e) :
    ∃ o, g.obstacle? name baud bits = some o
      ∧ g.Fails name o e (g.openChannel name baud bits).2 := by
  cases met : g.obstacle? name baud bits with
  | none =>
    obtain ⟨c, opened, -⟩ := openChannel_of_clear met
    cases opened.symm.trans failed
  | some o =>
    obtain ⟨e', g', same, fails⟩ := openChannel_fails met
    rw [same] at failed ⊢
    cases failed
    exact ⟨o, rfl, fails⟩

end Registry

end AcceptanceBench
