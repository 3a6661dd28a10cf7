import AcceptanceBench.Bench

/-!
Polling until idle. A round that delivered something is followed at once by another one. This ends
because every delivery takes a chunk off a queue, and what listeners feed was promised by their
reactions beforehand: `load` counts both, and `load_round_lt` says that a round that delivers leaves
less of it.
-/

namespace AcceptanceBench

variable {β : Type}

/-- Altering one entry of a table changes a total over its values by what that entry changes. -/
theorem Table.total_alterEntries (weight : β → Nat) (name : String) (default : β) (change : β → β)
    (h : weight default = 0) (entries : List (String × β)) :
    total (fun e => weight e.2) (alterEntries name default change entries)
        + weight ((entries.lookup name).getD default)
      = total (fun e => weight e.2) entries
        + weight (change ((entries.lookup name).getD default)) := by
  induction entries with
  | nil => simp [alterEntries, h]
  | cons e rest ih =>
    obtain ⟨key, value⟩ := e
    by_cases hk : key = name
    · subst hk
      simp [alterEntries]
      omega
    · have hk' : (name == key) = false := beq_eq_false_iff_ne.mpr (Ne.symm hk)
      simp only [alterEntries, hk, if_false, total_cons, List.lookup_cons, hk']
      omega

namespace Rack

/-- Altering a device changes the number of queued chunks by what its queue changes. -/
theorem queued_alter (r : Rack) (endpoint : String) (change : Device → Device) :
    (r.alter endpoint change).queued + (r.device endpoint).queue.length
      = r.queued + (change (r.device endpoint)).queue.length :=
  Table.total_alterEntries (fun d : Device => d.queue.length) endpoint .fresh change rfl
    r.devices.entries

/-- Feeding a device adds the chunks. -/
theorem queued_alter_feed (r : Rack) (endpoint : String) (chunks : List Bytes) :
    (r.alter endpoint (.feed chunks)).queued = r.queued + chunks.length := by
  have := queued_alter r endpoint (.feed chunks)
  simp only [Device.feed, List.length_append] at this ⊢
  omega

@[simp] theorem queued_note (r : Rack) (n : Notice) : (r.note n).queued = r.queued := rfl

end Rack

/-- Reading a serial port adds nothing to the queues, and takes something off if it finds
something. -/
theorem SerialPort.queued_read (p : SerialPort) (r : Rack) :
    (p.read r).2.queued ≤ r.queued
      ∧ ∀ c cs, (p.read r).1 = .ok (c :: cs) → (p.read r).2.queued < r.queued := by
  unfold SerialPort.read
  by_cases hp : p.held
  · simp only [hp, Bool.not_true, Bool.false_eq_true, if_false]
    cases hf : (r.device p.port).fault .read with
    | some f => cases hs : f.kind.isSystem <;> simp [hs]
    | none =>
      cases hq : (r.device p.port).queue.flatten with
      | nil => simp
      | cons b bs =>
        have hne : (r.device p.port).queue ≠ [] := by
          intro h; simp [h] at hq
        have hpos := List.length_pos_iff.mpr hne
        have := r.queued_alter p.port fun d => { d with queue := [] }
        simp only [List.length_nil] at this
        constructor
        · simp only; omega
        · intro _ _ _; simp only; omega
  · simp [hp]

/-- Reading a link adds nothing to the queues, and takes something off if it finds something. -/
theorem Link.queued_read (link : Link) (r : Rack) :
    (link.read r).2.queued ≤ r.queued
      ∧ ∀ c cs, (link.read r).1 = .ok (c :: cs) → (link.read r).2.queued < r.queued := by
  cases link with
  | serial p => exact p.queued_read r
  | plain endpoint baud bits =>
    unfold Link.read
    simp only
    cases hf : (r.device endpoint).fault .read with
    | some f => simp
    | none =>
      cases hq : (r.device endpoint).queue with
      | nil => simp
      | cons chunk rest =>
        have := r.queued_alter endpoint fun d => { d with queue := rest }
        simp only [hq, List.length_cons] at this
        constructor
        · simp only; omega
        · intro _ _ _; simp only; omega

namespace Bench

/-- The chunks that the reactions of a listener will feed. -/
def promisedBy (listener : Listener) : Nat :=
  total (fun r => (r.feed.map fun f => f.2.length).getD 0) listener.reactions

/-- The chunks that are queued or will be fed by listeners. -/
def load (b : Bench) : Nat :=
  b.toRack.queued + total promisedBy b.listeners

@[simp] theorem load_note (b : Bench) (n : Notice) : (b.note n).load = b.load := rfl

@[simp] theorem load_onScheduler (b : Bench) (change : Scheduler → Scheduler) :
    (b.onScheduler change).load = b.load := rfl

theorem load_feed (b : Bench) (endpoint : String) (chunks : List Bytes) :
    (b.feed endpoint chunks).load = b.load + chunks.length := by
  have := b.toRack.queued_alter_feed endpoint chunks
  simp only [feed, onRack, load] at this ⊢
  omega

@[simp] theorem load_unsubscribe (b : Bench) (key : String) :
    (b.unsubscribe key).load = b.load := by
  unfold unsubscribe
  split <;> simp

@[simp] theorem load_unsubscribe_foldl (b : Bench) (keys : List String) :
    (keys.foldl (fun b key => b.unsubscribe key) b).load = b.load := by
  induction keys generalizing b with
  | nil => rfl
  | cons key rest ih => simp [ih]

@[simp] theorem load_requestStop (b : Bench) : b.requestStop.load = b.load := by
  unfold requestStop
  simp only [load_onScheduler]
  split <;> simp

@[simp] theorem load_stopFromThread (b : Bench) : b.stopFromThread.load = b.load := by
  unfold stopFromThread
  split <;> simp

/-- A reaction adds what it feeds. -/
theorem load_react (b : Bench) (s : Subscription) (r : Reaction) :
    (b.react s r).load = b.load + (r.feed.map fun f => f.2.length).getD 0 := by
  unfold react
  cases r.feed <;> cases r.raise <;> cases r.stop <;> simp [load_feed]

/-- Taking the first reaction off a listener takes its promise off the total. -/
theorem total_promisedBy_set (listeners : List Listener) (index : Nat) (listener : Listener)
    (reaction : Reaction) (rest : List Reaction) (hi : listeners[index]? = some listener)
    (hr : listener.reactions = reaction :: rest) :
    total promisedBy (listeners.set index { listener with reactions := rest })
        + (reaction.feed.map fun f => f.2.length).getD 0
      = total promisedBy listeners := by
  induction listeners generalizing index with
  | nil => simp at hi
  | cons l ls ih =>
    cases index with
    | zero =>
      obtain rfl : l = listener := by simpa using hi
      simp [promisedBy, hr]
      omega
    | succ index =>
      have := ih index (by simpa using hi)
      simp only [List.set_cons_succ, total_cons]
      omega

/-- Handing a chunk over takes the promise of the reaction that it calls for off the load. -/
theorem load_hand (b : Bench) (s : Subscription) (chunk : Bytes) :
    (b.hand s chunk).2.load
        + (((b.hand s chunk).1.bind (·.feed)).map fun f => f.2.length).getD 0
      = b.load := by
  unfold hand
  cases s.sink with
  | buffer index => rfl
  | listener index =>
    simp only
    cases hl : b.listeners[index]? with
    | none => rfl
    | some listener =>
      simp only
      cases hr : listener.reactions with
      | nil => rfl
      | cons reaction rest =>
        have := total_promisedBy_set b.listeners index listener reaction rest hl hr
        simp only [load, Option.bind_some]
        omega

/-- Delivering a chunk adds nothing that was not promised. -/
theorem load_deliver (b : Bench) (s : Subscription) (chunk : Bytes) :
    (b.deliver s chunk).load = b.load := by
  have h := load_hand b s chunk
  unfold deliver
  rcases hh : b.hand s chunk with ⟨_ | reaction, later⟩
  · rw [hh] at h
    exact h
  · rw [hh] at h
    simpa only [load_react, Option.bind_some] using h

/-- Serving a subscription adds nothing. It leaves less if it delivers, and otherwise it leaves the
buffers as they are. -/
theorem load_serve (b : Bench) (s : Subscription) :
    (b.serve s).2.load ≤ b.load ∧ ((b.serve s).1 = true → (b.serve s).2.load < b.load)
      ∧ ((b.serve s).1 = false → (b.serve s).2.buffers = b.buffers) := by
  have h := s.link.queued_read b.toRack
  unfold serve fetch
  rcases hread : s.link.read b.toRack with ⟨chunk, rack⟩
  rw [hread] at h
  simp only at h ⊢
  match chunk with
  | .error e => simpa [dropFailed, load, onScheduler, note, onRack] using h.1
  | .ok [] => simpa [load] using h.1
  | .ok (c :: cs) =>
    have hlt := h.2 c cs rfl
    have hle := load_deliver { b with
      toRack := rack, readings := b.readings ++ [⟨s, .ok (c :: cs)⟩] } s (c :: cs)
    simp only [load] at hle ⊢
    refine ⟨?_, ?_, ?_⟩
    · omega
    · intro _; omega
    · simp

/-- The same for a whole round. -/
theorem load_serveAll (subscriptions : List Subscription) (b : Bench) :
    (serveAll subscriptions b).2.load ≤ b.load
      ∧ ((serveAll subscriptions b).1 = true → (serveAll subscriptions b).2.load < b.load)
      ∧ ((serveAll subscriptions b).1 = false →
          (serveAll subscriptions b).2.buffers = b.buffers) := by
  induction subscriptions generalizing b with
  | nil => simp [serveAll]
  | cons s rest ih =>
    have hs := load_serve b s
    have hr := ih (b.serve s).2
    simp only [serveAll]
    refine ⟨by omega, ?_, ?_⟩
    · intro h
      rcases Bool.or_eq_true _ _ |>.mp h with h | h
      · have := hs.2.1 h; omega
      · have := hr.2.1 h; omega
    · intro h
      obtain ⟨h₁, h₂⟩ := Bool.or_eq_false_iff.mp h
      rw [hr.2.2 h₂, hs.2.2 h₁]

/-- A round that delivers leaves less. -/
theorem load_round_lt (b : Bench) (h : b.round.1 = true) : b.round.2.load < b.load :=
  (load_serveAll _ b).2.1 h

/-- Lets the thread run until it is idle, if it is alive. A thread that was asked to stop ends
without another round. -/
def settle (b : Bench) : Bench :=
  if b.scheduler.thread = some .alive then
    if b.scheduler.stopRequested then b.onScheduler fun s => { s with thread := some .ended }
    else
      match _h : b.round with
      | (true, later) => settle later
      | (false, later) => later
  else b
termination_by b.load
decreasing_by
  have := load_round_lt b (by rw [_h])
  rwa [_h] at this

/-- Settling adds nothing, and leaves less unless it leaves the buffers as they are. -/
theorem load_settle (b : Bench) :
    b.settle.load ≤ b.load ∧ (b.settle.buffers ≠ b.buffers → b.settle.load < b.load) := by
  fun_induction settle b with
  | case1 => exact ⟨Nat.le_refl _, fun h => absurd rfl h⟩
  | case2 b _ _ later hround ih =>
    have := load_round_lt b (by rw [hround])
    rw [hround] at this
    exact ⟨Nat.le_trans ih.1 (Nat.le_of_lt this), fun _ => Nat.lt_of_le_of_lt ih.1 this⟩
  | case3 b _ _ later hround =>
    have h := load_serveAll b.scheduler.subscriptions b
    change b.round.2.load ≤ _ ∧ _ ∧ (b.round.1 = false → b.round.2.buffers = b.buffers) at h
    rw [hround] at h
    exact ⟨h.1, fun hne => absurd (h.2.2 rfl) hne⟩
  | case4 => exact ⟨Nat.le_refl _, fun h => absurd rfl h⟩

end Bench

end AcceptanceBench
