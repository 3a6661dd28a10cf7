import AcceptanceBench.Link

/-!
What links do to their devices apart from the streams. Reading and writing leave a device as it is
but for its stream and what was written to it; connecting a new link opens the device once, and
disconnecting a link that holds its device closes it once.
-/

namespace AcceptanceBench

/-- Devices that differ at most in their streams and in what was written to them. -/
def Device.Alike (d d' : Device) : Prop :=
  d' = { d with sent := d'.sent, queue := d'.queue, written := d'.written }

theorem Device.Alike.trans {d₁ d₂ d₃ : Device} (h₁ : d₁.Alike d₂) (h₂ : d₂.Alike d₃) :
    d₁.Alike d₃ := by
  refine Eq.trans h₂ ?_
  rw [h₁]

theorem Device.Alike.fields {d d' : Device} (alike : d.Alike d') :
    d'.echo = d.echo ∧ d'.fault = d.fault ∧ d'.isOpen = d.isOpen ∧ d'.opens = d.opens
      ∧ d'.closes = d.closes := by
  rw [Device.Alike] at alike
  rw [alike]
  exact ⟨rfl, rfl, rfl, rfl, rfl⟩

theorem Device.alike_record (d : Device) (payload : Bytes) : d.Alike (d.record payload) := by
  unfold Device.Alike record
  cases d.echo with
  | true => rfl
  | false => rfl

namespace Rack

/-- Racks whose devices differ at most in their streams and in what was written to them. -/
def Alike (r r' : Rack) : Prop :=
  ∀ endpoint, (r.device endpoint).Alike (r'.device endpoint)

theorem Alike.refl (r : Rack) : r.Alike r := fun _ => rfl

theorem alike_of_same {r r' : Rack} (same : r'.devices = r.devices) : r.Alike r' := by
  intro endpoint
  rw [Device.Alike, device, device, same]

theorem Alike.trans {r₁ r₂ r₃ : Rack} (h₁ : r₁.Alike r₂) (h₂ : r₂.Alike r₃) : r₁.Alike r₃ :=
  fun endpoint => (h₁ endpoint).trans (h₂ endpoint)

theorem alike_alter (r : Rack) (endpoint : String) {change : Device → Device}
    (alike : ∀ d, Device.Alike d (change d)) : r.Alike (r.alter endpoint change) := by
  intro other
  rw [device_alter]
  split
  · rename_i same
    subst same
    exact alike _
  · rfl

/-- Devices were opened and closed so many times more. -/
def Counts (opens closes : String → Nat) (r r' : Rack) : Prop :=
  ∀ endpoint, (r'.device endpoint).opens = (r.device endpoint).opens + opens endpoint
    ∧ (r'.device endpoint).closes = (r.device endpoint).closes + closes endpoint

/-- For no device. -/
def never : String → Nat := fun _ => 0

/-- Once for one device. -/
def once (endpoint : String) : String → Nat :=
  fun other => if other = endpoint then 1 else 0

theorem once_le (endpoint other : String) : once endpoint other ≤ 1 := by
  unfold once
  split
  · exact Nat.le_refl 1
  · exact Nat.zero_le 1

theorem Alike.counts {r r' : Rack} (alike : r.Alike r') : Counts never never r r' := by
  intro endpoint
  obtain ⟨-, -, -, opens, closes⟩ := (alike endpoint).fields
  exact ⟨opens, closes⟩

theorem Counts.trans {r₁ r₂ r₃ : Rack} {opens closes opens' closes' : String → Nat}
    (h₁ : Counts opens closes r₁ r₂) (h₂ : Counts opens' closes' r₂ r₃) :
    Counts (fun e => opens e + opens' e) (fun e => closes e + closes' e) r₁ r₃ := by
  intro endpoint
  rw [(h₂ endpoint).1, (h₂ endpoint).2, (h₁ endpoint).1, (h₁ endpoint).2]
  exact ⟨Nat.add_assoc .., Nat.add_assoc ..⟩

theorem Counts.congr {r r' : Rack} {opens closes opens' closes' : String → Nat}
    (counts : Counts opens closes r r') (opened : ∀ endpoint, opens endpoint = opens' endpoint)
    (closed : ∀ endpoint, closes endpoint = closes' endpoint) : Counts opens' closes' r r' := by
  intro endpoint
  rw [← opened, ← closed]
  exact counts endpoint

theorem counts_alter (r : Rack) (endpoint : String) {change : Device → Device}
    (opens : ∀ d, (change d).opens = d.opens) (closes : ∀ d, (change d).closes = d.closes) :
    Counts never never r (r.alter endpoint change) := by
  intro other
  rw [device_alter]
  split
  · rename_i same
    subst same
    exact ⟨opens _, closes _⟩
  · exact ⟨rfl, rfl⟩

theorem counts_opened (r : Rack) (endpoint : String) (opening : Opening) :
    Counts (once endpoint) never r (r.alter endpoint (.opened opening)) := by
  intro other
  rw [device_alter, once]
  split
  · rename_i same
    subst same
    exact ⟨rfl, rfl⟩
  · exact ⟨rfl, rfl⟩

theorem counts_closed (r : Rack) (endpoint : String) :
    Counts never (once endpoint) r (r.alter endpoint .closed) := by
  intro other
  rw [device_alter, once]
  split
  · rename_i same
    subst same
    exact ⟨rfl, rfl⟩
  · exact ⟨rfl, rfl⟩

end Rack

theorem exists_of_bind_eq_ok {α β : Type} {x : Except Error α} {f : α → Except Error β} {b : β}
    (ok : (x >>= f) = .ok b) : ∃ a, x = .ok a ∧ f a = .ok b := by
  cases x with
  | error e => cases ok
  | ok a => exact ⟨a, rfl, ok⟩

namespace SerialPort

theorem new_of_make {port : String} {baud : Numeral} {bits stopBits : Argument}
    {parity : String} {writeTimeout : Option Numeral} {p : SerialPort}
    (made : make port baud bits parity stopBits writeTimeout = .ok p) :
    p.held = false := by
  have settled : (do
      let bits ← lineSetting "bytesize" bits [5, 6, 7, 8] port
      let parity ← paritySetting parity port
      let stopBits ← lineSetting "stopbits" stopBits [1, 2] port
      return { port, baud, bits, parity, stopBits, writeTimeout, held := false }) = Except.ok p →
      p.held = false := by
    intro made
    obtain ⟨bits', -, made⟩ := exists_of_bind_eq_ok made
    obtain ⟨parity', -, made⟩ := exists_of_bind_eq_ok made
    obtain ⟨stopBits', -, made⟩ := exists_of_bind_eq_ok made
    cases made
    rfl
  have refused (e : Error) {f : Unit → Except Error SerialPort}
      (made : (Except.error e >>= f) = .ok p) : p.held = false := by
    cases made
  unfold make at made
  by_cases rate : baud.value ≤ 0
  · simp only [rate, if_true] at made
    exact refused _ made
  · simp only [rate, if_false] at made
    cases writeTimeout with
    | none => exact settled made
    | some t =>
      by_cases negative : t.value < 0
      · simp only [negative, if_true] at made
        exact refused _ made
      · simp only [negative, if_false] at made
        exact settled made

theorem alike_read (p : SerialPort) (r : Rack) : r.Alike (p.read r).2 := by
  unfold read
  split
  · exact .refl r
  · dsimp only
    cases (r.device p.port).fault .read with
    | some f =>
      dsimp only
      split
      · exact Rack.alike_of_same rfl
      · exact .refl r
    | none =>
      dsimp only
      cases (r.device p.port).queue.flatten with
      | nil => exact .refl r
      | cons c cs => exact r.alike_alter p.port fun _ => rfl

theorem alike_write (p : SerialPort) (payload : Bytes) (context : String) (r : Rack) :
    r.Alike (p.write payload context r).2 := by
  have recorded : r.Alike (r.alter p.port (.record payload)) :=
    r.alike_alter p.port fun d => d.alike_record payload
  have failed (f : Fault) (r' : Rack) (alike : r.Alike r') :
      r.Alike (if f.kind.isSystem then
        ((.error (.writeFailed context p.port f) : Except Error Int),
          r'.note (.portWriteFailed context p.port f))
        else (.error (.fault f), r')).2 := by
    split
    · exact alike.trans (Rack.alike_of_same rfl)
    · exact alike
  unfold write
  split
  · exact .refl r
  · dsimp only
    cases (r.device p.port).fault .write with
    | some f => exact failed f r (.refl r)
    | none =>
      dsimp only
      cases (r.device p.port).fault .flush with
      | some f => exact failed f _ recorded
      | none =>
        dsimp only
        split
        · exact recorded
        · exact recorded

theorem write_of_ok {p : SerialPort} {payload : Bytes} {context : String} {r : Rack} {count : Int}
    (ok : (p.write payload context r).1 = .ok count) :
    (p.write payload context r).2 = r.alter p.port (.record payload) := by
  have failed {f : Fault} {r : Rack} (ok : (if f.kind.isSystem then
        ((.error (.writeFailed context p.port f) : Except Error Int),
          r.note (.portWriteFailed context p.port f))
        else (.error (.fault f), r)).1 = .ok count) : False := by
    split at ok
    · cases ok
    · cases ok
  unfold write at ok ⊢
  split at ok
  · cases ok
  · rename_i usable
    rw [if_neg usable]
    dsimp only at ok ⊢
    cases written : (r.device p.port).fault .write with
    | some f =>
      rw [written] at ok
      exact (failed ok).elim
    | none =>
      rw [written] at ok
      dsimp only at ok ⊢
      cases flushed : (r.device p.port).fault .flush with
      | some f =>
        rw [flushed] at ok
        exact (failed ok).elim
      | none =>
        dsimp only
        split
        · rfl
        · rfl

end SerialPort

namespace Link

/-- The link was opened and not closed since. Plain links do not keep account of it. -/
def IsHeld : Link → Prop
  | .plain _ _ _ => True
  | .serial p => p.held = true

/-- The link was not opened yet. -/
def IsNew : Link → Prop
  | .plain _ _ _ => True
  | .serial p => p.held = false

theorem isNew_makePlain {endpoint : String} {baud bits : Option Whole} {r : Rack} {link : Link}
    (made : makePlain endpoint baud bits r = .ok link) : link.IsNew := by
  unfold makePlain at made
  split at made
  · cases made
  · cases made
    trivial

theorem isNew_makeSerial {endpoint : String} {baud bits : Whole} {link : Link}
    (made : makeSerial endpoint baud bits = .ok link) : link.IsNew := by
  obtain ⟨p, port, same⟩ := exists_of_bind_eq_ok made
  cases same
  exact SerialPort.new_of_make port

theorem alike_read (link : Link) (r : Rack) : r.Alike (link.read r).2 := by
  cases link with
  | serial p => exact p.alike_read r
  | plain endpoint baud bits =>
    unfold read
    dsimp only
    rcases (r.device endpoint).fault .read with _ | f
    · rcases (r.device endpoint).queue with _ | ⟨chunk, rest⟩
      · exact .refl r
      · exact r.alike_alter endpoint fun _ => rfl
    · exact .refl r

theorem alike_write (link : Link) (payload : Bytes) (context : String) (r : Rack) :
    r.Alike (link.write payload context r).2 := by
  cases link with
  | serial p => exact p.alike_write payload context r
  | plain endpoint baud bits =>
    unfold write
    dsimp only
    cases (r.device endpoint).fault .write with
    | some f => exact .refl r
    | none => exact r.alike_alter endpoint fun d => d.alike_record payload

theorem write_of_ok {link : Link} {payload : Bytes} {context : String} {r : Rack} {count : Int}
    (ok : (link.write payload context r).1 = .ok count) :
    (link.write payload context r).2 = r.alter link.endpoint (.record payload) := by
  cases link with
  | serial p => exact SerialPort.write_of_ok ok
  | plain endpoint baud bits =>
    unfold write at ok ⊢
    dsimp only at ok ⊢
    cases written : (r.device endpoint).fault .write with
    | some f =>
      rw [written] at ok
      cases ok
    | none => rfl

/-- Connecting a new link opens its device and holds it, unless the device raises a fault. -/
theorem connect_cases {link : Link} (new : link.IsNew) (context : String) (r : Rack) :
    match (r.device link.endpoint).fault .openStage with
    | none => ∃ held opening, link.connect context r
          = (.ok held, r.alter link.endpoint (.opened opening))
        ∧ held.endpoint = link.endpoint ∧ held.IsHeld
    | some _ => ∃ e r', link.connect context r = (.error e, r') ∧ r'.devices = r.devices
        ∧ r'.ports = r.ports := by
  cases link with
  | plain endpoint baud bits =>
    unfold connect Link.endpoint
    dsimp only
    cases (r.device endpoint).fault .openStage with
    | none => exact ⟨_, _, rfl, rfl, trivial⟩
    | some f => exact ⟨_, _, rfl, rfl, rfl⟩
  | serial p =>
    have closed : ¬ p.isOpen r = true := by
      have unheld : p.held = false := new
      simp [SerialPort.isOpen, unheld]
    unfold connect SerialPort.connect Link.endpoint
    dsimp only
    rw [if_neg closed]
    cases (r.device p.port).fault .openStage with
    | none => exact ⟨_, _, rfl, rfl, rfl⟩
    | some f =>
      dsimp only
      cases f.kind.isSystem with
      | true => exact ⟨_, _, rfl, rfl, rfl⟩
      | false => exact ⟨_, _, rfl, rfl, rfl⟩

/-- Connecting a new link opens its device once and holds it, or fails and leaves it closed. -/
theorem connect_spec {link : Link} (new : link.IsNew) (context : String) (r : Rack) :
    (∃ held, (link.connect context r).1 = .ok held ∧ held.endpoint = link.endpoint ∧ held.IsHeld
        ∧ Rack.Counts (Rack.once link.endpoint) Rack.never r (link.connect context r).2)
      ∨ (∃ e, (link.connect context r).1 = .error e) ∧ r.Alike (link.connect context r).2 := by
  have connects := connect_cases new context r
  cases fault : (r.device link.endpoint).fault .openStage with
  | none =>
    rw [fault] at connects
    obtain ⟨held, opening, connected, endpoint, holds⟩ := connects
    rw [connected]
    exact Or.inl ⟨held, rfl, endpoint, holds, r.counts_opened link.endpoint opening⟩
  | some f =>
    rw [fault] at connects
    obtain ⟨e, r', connected, devices, -⟩ := connects
    rw [connected]
    exact Or.inr ⟨⟨e, rfl⟩, Rack.alike_of_same devices⟩

/-- Disconnecting a link that holds its device closes the device once, whatever fault that
raises. -/
theorem counts_disconnect {link : Link} (held : link.IsHeld) (r : Rack) :
    Rack.Counts Rack.never (Rack.once link.endpoint) r (link.disconnect r).2 := by
  cases link with
  | plain endpoint baud bits => exact r.counts_closed endpoint
  | serial p =>
    have there : p.held = true := held
    unfold disconnect SerialPort.disconnect
    dsimp only
    rw [if_pos there]
    exact r.counts_closed p.port

end Link

end AcceptanceBench
