import AcceptanceBench.Proofs.LinkUse
import Mathlib.Data.List.Infix

/-!
What links do to the streams of their devices. A reading takes bytes off the front of one device's
queue; nothing else that a link does takes any, and a write adds some if the device echoes.
-/

namespace AcceptanceBench

namespace Rack

theorem device_congr {r r' : Rack} (same : r'.devices = r.devices) (endpoint : String) :
    r'.device endpoint = r.device endpoint := by
  rw [device, device, same]

/-- Devices may have sent more, which waits in their queues. -/
def Grows (r r' : Rack) : Prop :=
  ∀ endpoint, ∃ chunks, (r'.device endpoint).sent = (r.device endpoint).sent ++ chunks
    ∧ (r'.device endpoint).queue = (r.device endpoint).queue ++ chunks

theorem Grows.refl (r : Rack) : r.Grows r :=
  fun _ => ⟨[], by simp, by simp⟩

theorem grows_of_same {r r' : Rack} (same : r'.devices = r.devices) : r.Grows r' := by
  intro endpoint
  rw [device_congr same]
  exact Grows.refl r endpoint

theorem Grows.trans {r₁ r₂ r₃ : Rack} (h₁ : r₁.Grows r₂) (h₂ : r₂.Grows r₃) : r₁.Grows r₃ := by
  intro endpoint
  obtain ⟨first, sent₁, queue₁⟩ := h₁ endpoint
  obtain ⟨second, sent₂, queue₂⟩ := h₂ endpoint
  refine ⟨first ++ second, ?_, ?_⟩
  · rw [sent₂, sent₁, List.append_assoc]
  · rw [queue₂, queue₁, List.append_assoc]

theorem grows_alter (r : Rack) (endpoint : String) {change : Device → Device}
    (chunks : List Bytes) (sent : (change (r.device endpoint)).sent
      = (r.device endpoint).sent ++ chunks)
    (queue : (change (r.device endpoint)).queue = (r.device endpoint).queue ++ chunks) :
    r.Grows (r.alter endpoint change) := by
  intro other
  rw [device_alter]
  split
  · rename_i same
    subst same
    exact ⟨chunks, sent, queue⟩
  · exact ⟨[], by simp, by simp⟩

/-- A device that records a payload sends it back if it echoes. -/
theorem grows_record (r : Rack) (endpoint : String) (payload : Bytes) :
    r.Grows (r.alter endpoint (.record payload)) := by
  cases echo : (r.device endpoint).echo with
  | false =>
    exact r.grows_alter endpoint [] (by simp [Device.record, echo]) (by simp [Device.record, echo])
  | true =>
    exact r.grows_alter endpoint [payload] (by simp [Device.record, echo, Device.feed])
      (by simp [Device.record, echo, Device.feed])

theorem grows_opened (r : Rack) (endpoint : String) (opening : Opening) :
    r.Grows (r.alter endpoint (.opened opening)) :=
  r.grows_alter endpoint [] (by simp [Device.opened]) (by simp [Device.opened])

theorem grows_closed (r : Rack) (endpoint : String) : r.Grows (r.alter endpoint .closed) :=
  r.grows_alter endpoint [] (by simp [Device.closed]) (by simp [Device.closed])

/-- Bytes were taken off the front of one device's queue, and all else is as it was. -/
def Takes (endpoint : String) (taken : Bytes) (r r' : Rack) : Prop :=
  ∀ other, (r'.device other).sent = (r.device other).sent
    ∧ (r.device other).queue.flatten
      = (if other = endpoint then taken else []) ++ (r'.device other).queue.flatten

theorem takes_nothing (endpoint : String) (r : Rack) : Takes endpoint [] r r :=
  fun _ => ⟨rfl, by simp⟩

theorem takes_alter (r : Rack) (endpoint : String) {taken : Bytes} {rest : List Bytes}
    (queue : (r.device endpoint).queue.flatten = taken ++ rest.flatten) :
    Takes endpoint taken r (r.alter endpoint fun d => { d with queue := rest }) := by
  intro other
  rw [device_alter]
  split
  · rename_i same
    subst same
    exact ⟨rfl, queue⟩
  · exact ⟨rfl, by simp⟩

end Rack

namespace SerialPort

theorem grows_connect (p : SerialPort) (context : String) (r : Rack) :
    r.Grows (p.connect context r).2 := by
  unfold connect
  split
  · exact .refl r
  · cases (r.device p.port).fault .openStage with
    | none => exact r.grows_opened p.port p.opening
    | some f =>
      dsimp only
      split
      · exact .refl r
      · exact .refl r

theorem grows_write (p : SerialPort) (payload : Bytes) (context : String) (r : Rack) :
    r.Grows (p.write payload context r).2 := by
  have failed (f : Fault) (r' : Rack) (grown : r.Grows r') :
      r.Grows (if f.kind.isSystem then
        ((.error (.writeFailed context p.port f) : Except Error Int),
          r'.note (.portWriteFailed context p.port f))
        else (.error (.fault f), r')).2 := by
    split
    · exact grown
    · exact grown
  unfold write
  split
  · exact .refl r
  · dsimp only
    cases (r.device p.port).fault .write with
    | some f => exact failed f r (.refl r)
    | none =>
      dsimp only
      cases (r.device p.port).fault .flush with
      | some f => exact failed f _ (r.grows_record p.port payload)
      | none =>
        dsimp only
        split
        · exact r.grows_record p.port payload
        · exact r.grows_record p.port payload

theorem grows_disconnect (p : SerialPort) (r : Rack) : r.Grows (p.disconnect r).2.2 := by
  unfold disconnect
  split
  · exact r.grows_closed p.port
  · exact .refl r

/-- A reading takes everything that waits, or nothing if it fails. -/
theorem takes_read (p : SerialPort) (r : Rack) :
    ∃ taken, Rack.Takes p.port taken r (p.read r).2
      ∧ ((p.read r).1 = .ok taken ∨ taken = [] ∧ ∃ e, (p.read r).1 = .error e) := by
  have failed (e : Error) (r' : Rack) (same : r'.devices = r.devices) :
      ∃ taken, Rack.Takes p.port taken r r'
        ∧ ((.error e : Except Error Bytes) = .ok taken
          ∨ taken = [] ∧ ∃ e', (.error e : Except Error Bytes) = .error e') := by
    refine ⟨[], fun other => ?_, Or.inr ⟨rfl, e, rfl⟩⟩
    rw [Rack.device_congr same]
    exact Rack.takes_nothing p.port r other
  unfold read
  split
  · exact failed _ _ rfl
  · dsimp only
    cases (r.device p.port).fault .read with
    | some f =>
      dsimp only
      split
      · exact failed _ _ rfl
      · exact failed _ _ rfl
    | none =>
      dsimp only
      cases queue : (r.device p.port).queue.flatten with
      | nil => exact ⟨[], Rack.takes_nothing p.port r, Or.inl rfl⟩
      | cons c cs => exact ⟨c :: cs, Rack.takes_alter r p.port (by simp [queue]), Or.inl rfl⟩

end SerialPort

namespace Link

theorem grows_connect (link : Link) (context : String) (r : Rack) :
    r.Grows (link.connect context r).2 := by
  unfold connect
  cases link with
  | plain endpoint baud bits =>
    dsimp only
    cases (r.device endpoint).fault .openStage with
    | none => exact r.grows_opened endpoint _
    | some f => exact .refl r
  | serial p =>
    have grown := p.grows_connect context r
    dsimp only
    rcases connected : p.connect context r with ⟨e | opened, r'⟩ <;> rw [connected] at grown
    · exact grown
    · exact grown

theorem grows_write (link : Link) (payload : Bytes) (context : String) (r : Rack) :
    r.Grows (link.write payload context r).2 := by
  unfold write
  cases link with
  | plain endpoint baud bits =>
    dsimp only
    cases (r.device endpoint).fault .write with
    | none => exact r.grows_record endpoint payload
    | some f => exact .refl r
  | serial p => exact p.grows_write payload context r

theorem grows_disconnect (link : Link) (r : Rack) : r.Grows (link.disconnect r).2 := by
  unfold disconnect
  cases link with
  | plain endpoint baud bits => exact r.grows_closed endpoint
  | serial p => exact p.grows_disconnect r

/-- What a reading returns it has taken off the queue of the link's device, and a reading that fails
has taken nothing. -/
theorem takes_read (link : Link) (r : Rack) :
    ∃ taken, Rack.Takes link.endpoint taken r (link.read r).2
      ∧ ((link.read r).1 = .ok taken ∨ taken = [] ∧ ∃ e, (link.read r).1 = .error e) := by
  cases link with
  | plain endpoint baud bits =>
    unfold read
    dsimp only [Link.endpoint]
    rcases (r.device endpoint).fault .read with _ | f
    · rcases queue : (r.device endpoint).queue with _ | ⟨chunk, rest⟩
      · exact ⟨[], Rack.takes_nothing endpoint r, Or.inl rfl⟩
      · exact ⟨chunk, Rack.takes_alter r endpoint (by simp [queue]), Or.inl rfl⟩
    · exact ⟨[], Rack.takes_nothing endpoint r, Or.inr ⟨rfl, _, rfl⟩⟩
  | serial p => exact p.takes_read r

end Link

/-! ### Queues run empty -/

/-- A queue becomes shorter, or no bytes are left in it. -/
def Drains (queue queue' : List Bytes) : Prop :=
  queue'.flatten = [] ∨ queue'.length < queue.length

theorem Drains.after {first second third : List Bytes} (shorter : second <:+ first)
    (drains : Drains second third) : Drains first third :=
  drains.imp_right fun less => Nat.lt_of_lt_of_le less shorter.length_le

theorem Drains.onward {first second third : List Bytes} (drains : Drains first second)
    (shorter : third <:+ second) : Drains first third := by
  rcases drains with empty | less
  · refine Or.inl (List.suffix_nil.mp ?_)
    rw [← empty]
    exact shorter.flatten
  · exact Or.inr (Nat.lt_of_le_of_lt shorter.length_le less)

theorem Rack.queue_alter_isSuffix (r : Rack) (endpoint other : String) {rest : List Bytes}
    (shorter : rest <:+ (r.device endpoint).queue) :
    ((r.alter endpoint fun d => { d with queue := rest }).device other).queue
      <:+ (r.device other).queue := by
  rw [Rack.device_alter]
  split
  · rename_i same
    subst same
    exact shorter
  · exact List.suffix_refl _

namespace SerialPort

theorem queue_read_isSuffix (p : SerialPort) (r : Rack) (endpoint : String) :
    ((p.read r).2.device endpoint).queue <:+ (r.device endpoint).queue := by
  unfold read
  split
  · exact List.suffix_refl _
  · dsimp only
    cases (r.device p.port).fault .read with
    | some f =>
      dsimp only
      split
      · exact List.suffix_refl _
      · exact List.suffix_refl _
    | none =>
      dsimp only
      cases (r.device p.port).queue.flatten with
      | nil => exact List.suffix_refl _
      | cons c cs => exact r.queue_alter_isSuffix p.port endpoint List.nil_suffix

theorem drains_read {p : SerialPort} (held : p.held = true) {r : Rack}
    (readable : (r.device p.port).fault .read = none) :
    (∃ bytes, (p.read r).1 = .ok bytes)
      ∧ Drains (r.device p.port).queue ((p.read r).2.device p.port).queue := by
  unfold read
  rw [held, Bool.not_true, if_neg Bool.false_ne_true]
  dsimp only
  rw [readable]
  dsimp only
  cases queue : (r.device p.port).queue.flatten with
  | nil => exact ⟨⟨[], rfl⟩, Or.inl queue⟩
  | cons c cs =>
    refine ⟨⟨_, rfl⟩, Or.inl ?_⟩
    rw [Rack.device_alter, if_pos rfl]
    rfl

end SerialPort

namespace Link

/-- A reading takes chunks off the front of queues and changes none of the others. -/
theorem queue_read_isSuffix (link : Link) (r : Rack) (endpoint : String) :
    ((link.read r).2.device endpoint).queue <:+ (r.device endpoint).queue := by
  cases link with
  | serial p => exact p.queue_read_isSuffix r endpoint
  | plain source baud bits =>
    unfold read
    dsimp only
    rcases (r.device source).fault .read with _ | f
    · rcases queue : (r.device source).queue with _ | ⟨chunk, rest⟩
      · exact List.suffix_refl _
      · exact r.queue_alter_isSuffix source endpoint (queue ▸ List.suffix_cons chunk rest)
    · exact List.suffix_refl _

/-- A reading without a fault succeeds and drains the queue of the device. -/
theorem drains_read {link : Link} (held : link.IsHeld) {r : Rack}
    (readable : (r.device link.endpoint).fault .read = none) :
    (∃ bytes, (link.read r).1 = .ok bytes)
      ∧ Drains (r.device link.endpoint).queue ((link.read r).2.device link.endpoint).queue := by
  cases link with
  | serial p => exact SerialPort.drains_read held readable
  | plain endpoint baud bits =>
    have none : (r.device endpoint).fault .read = none := readable
    unfold read
    dsimp only [Link.endpoint]
    rw [none]
    rcases queue : (r.device endpoint).queue with _ | ⟨chunk, rest⟩
    · exact ⟨⟨[], rfl⟩, Or.inl (by rw [queue]; rfl)⟩
    · refine ⟨⟨chunk, rfl⟩, Or.inr ?_⟩
      rw [Rack.device_alter, if_pos rfl]
      exact Nat.lt_succ_self _

end Link

/-! ### Readings that find nothing -/

/-- A reading that finds nothing where no empty chunk waits: the queue is empty if it succeeds. -/
structure Quiet (endpoint : String) (r : Rack) (reading : Except Error Bytes × Rack) : Prop where
  devices : reading.2.devices = r.devices
  empty : reading.1 = .ok [] → (r.device endpoint).queue = []

theorem SerialPort.quiet_read (p : SerialPort) {r : Rack} (solid : [] ∉ (r.device p.port).queue)
    (nothing : ∀ c cs, (p.read r).1 ≠ .ok (c :: cs)) : Quiet p.port r (p.read r) := by
  have failed (e : Error) (r' : Rack) (same : r'.devices = r.devices) :
      Quiet p.port r (.error e, r') := ⟨same, fun ok => by cases ok⟩
  unfold read at nothing ⊢
  split
  · exact failed _ _ rfl
  · next held =>
    rw [if_neg held] at nothing
    dsimp only at nothing ⊢
    cases fault : (r.device p.port).fault .read with
    | some f =>
      dsimp only
      split
      · exact failed _ _ rfl
      · exact failed _ _ rfl
    | none =>
      rw [fault] at nothing
      dsimp only at nothing ⊢
      cases flat : (r.device p.port).queue.flatten with
      | nil =>
        refine ⟨rfl, fun _ => List.eq_nil_iff_forall_not_mem.mpr fun chunk waits => ?_⟩
        rw [List.flatten_eq_nil_iff.mp flat chunk waits] at waits
        exact solid waits
      | cons c cs =>
        rw [flat] at nothing
        exact absurd rfl (nothing c cs)

theorem Link.quiet_read (link : Link) {r : Rack} (solid : [] ∉ (r.device link.endpoint).queue)
    (nothing : ∀ c cs, (link.read r).1 ≠ .ok (c :: cs)) :
    Quiet link.endpoint r (link.read r) := by
  cases link with
  | serial p => exact p.quiet_read solid nothing
  | plain endpoint baud bits =>
    unfold read at nothing ⊢
    dsimp only [Link.endpoint] at nothing solid ⊢
    rcases fault : (r.device endpoint).fault .read with _ | f
    · rcases queue : (r.device endpoint).queue with _ | ⟨chunk, rest⟩
      · exact ⟨rfl, fun _ => queue⟩
      · rw [fault, queue] at nothing
        rw [queue] at solid
        cases chunk with
        | nil => exact absurd List.mem_cons_self solid
        | cons c cs => exact absurd rfl (nothing c cs)
    · exact ⟨rfl, fun ok => by cases ok⟩

end AcceptanceBench
