import AcceptanceBench.Proofs.Stop

/-!
A bench on top of a past. What an earlier course has left behind — a log, readings and deliveries,
buffers that nobody reads any more, and ids that were given out — is carried along and changes
nothing: whatever is done to the bench goes on above it, with later places for the buffers and later
ids.
-/

namespace AcceptanceBench

/-- What an earlier course has left behind. -/
structure Past where
  ids : Nat
  buffers : List Buffer
  listeners : List Listener
  handles : Table Nat
  log : List Notice
  readings : List Reading
  deliveries : List Delivery
  ran : List (List String)
  slept : List Binary64

/-- The rack with an earlier log before its own. -/
def Rack.under (log : List Notice) (r : Rack) : Rack :=
  { r with log := log ++ r.log }

namespace Past

/-- Where a subscription's chunks go above the past: the places of its buffers are taken. -/
def sink (p : Past) : Sink → Sink
  | .buffer index => .buffer (p.buffers.length + index)
  | .listener index => .listener index

/-- A subscription above the past. -/
def subscription (p : Past) (s : Subscription) : Subscription :=
  { s with id := p.ids + s.id, sink := p.sink s.sink }

/-- A reading above the past. -/
def reading (p : Past) (r : Reading) : Reading :=
  { r with subscription := p.subscription r.subscription }

/-- A delivery above the past. -/
def delivery (p : Past) (d : Delivery) : Delivery :=
  { d with subscription := p.subscription d.subscription }

/-- The scheduler above the past. -/
def scheduler (p : Past) (s : Scheduler) : Scheduler :=
  { s with subscriptions := s.subscriptions.map p.subscription, nextId := p.ids + s.nextId }

/-- The bench above the past. -/
def onto (p : Past) (b : Bench) : Bench where
  toRack := b.toRack.under p.log
  scheduler := p.scheduler b.scheduler
  buffers := p.buffers ++ b.buffers
  listeners := p.listeners
  handles := p.handles
  readings := p.readings ++ b.readings.map p.reading
  deliveries := p.deliveries ++ b.deliveries.map p.delivery
  stuck := b.stuck

end Past

/-! ### Racks and links -/

section Links

variable (log : List Notice)

theorem SerialPort.connect_under (port : SerialPort) (context : String) (r : Rack) :
    port.connect context (r.under log)
      = ((port.connect context r).1, (port.connect context r).2.under log) := by
  unfold connect
  have same : port.isOpen (r.under log) = port.isOpen r := rfl
  have device : (r.under log).device port.port = r.device port.port := rfl
  rw [same, device]
  split
  · rfl
  · split
    · rfl
    · split
      · simp only [Rack.under, Rack.note, List.append_assoc]
      · rfl

theorem SerialPort.read_under (port : SerialPort) (r : Rack) :
    port.read (r.under log) = ((port.read r).1, (port.read r).2.under log) := by
  unfold read
  have device : (r.under log).device port.port = r.device port.port := rfl
  rw [device]
  split
  · rfl
  · dsimp only
    split
    · split
      · rfl
      · rfl
    · split
      · simp only [Rack.under, Rack.note, List.append_assoc]
      · rfl

theorem SerialPort.write_under (port : SerialPort) (payload : Bytes) (context : String) (r : Rack) :
    port.write payload context (r.under log)
      = ((port.write payload context r).1, (port.write payload context r).2.under log) := by
  unfold write
  have same : port.isOpen (r.under log) = port.isOpen r := rfl
  have device : (r.under log).device port.port = r.device port.port := rfl
  rw [same, device]
  cases port.isOpen r with
  | false => rfl
  | true =>
    rw [if_neg (by simp), if_neg (by simp)]
    dsimp only
    split
    · split
      · simp only [Rack.under, Rack.note, List.append_assoc]
      · rfl
    · split
      · split
        · simp only [Rack.under, Rack.alter, Rack.note, List.append_assoc]
        · rfl
      · split
        · rfl
        · rfl

theorem SerialPort.disconnect_under (port : SerialPort) (r : Rack) :
    port.disconnect (r.under log) = ((port.disconnect r).1, (port.disconnect r).2.1,
      (port.disconnect r).2.2.under log) := by
  unfold disconnect
  cases port.held with
  | false => rfl
  | true => rfl

theorem Link.connect_under (link : Link) (context : String) (r : Rack) :
    link.connect context (r.under log)
      = ((link.connect context r).1, (link.connect context r).2.under log) := by
  cases link with
  | plain endpoint baud bits =>
    unfold connect
    dsimp only
    have device : (r.under log).device endpoint = r.device endpoint := rfl
    rw [device]
    split
    · rfl
    · rfl
  | serial port =>
    unfold connect
    dsimp only
    rw [port.connect_under log context r]
    rcases port.connect context r with ⟨e | opened, later⟩ <;> rfl

theorem Link.read_under (link : Link) (r : Rack) :
    link.read (r.under log) = ((link.read r).1, (link.read r).2.under log) := by
  cases link with
  | plain endpoint baud bits =>
    unfold read
    have device : (r.under log).device endpoint = r.device endpoint := rfl
    dsimp only
    rw [device]
    split <;> rfl
  | serial port => exact port.read_under log r

theorem Link.write_under (link : Link) (payload : Bytes) (context : String) (r : Rack) :
    link.write payload context (r.under log)
      = ((link.write payload context r).1, (link.write payload context r).2.under log) := by
  cases link with
  | plain endpoint baud bits =>
    unfold write
    have device : (r.under log).device endpoint = r.device endpoint := rfl
    dsimp only
    rw [device]
    split <;> rfl
  | serial port => exact port.write_under log payload context r

theorem Link.disconnect_under (link : Link) (r : Rack) :
    link.disconnect (r.under log) = ((link.disconnect r).1, (link.disconnect r).2.under log) := by
  cases link with
  | plain endpoint baud bits => rfl
  | serial port =>
    unfold disconnect
    dsimp only
    rw [port.disconnect_under log r]

end Links

theorem modify_append {α : Type} (l l' : List α) (index : Nat) (change : α → α) :
    (l ++ l').modify (l.length + index) change = l ++ l'.modify index change := by
  induction l with
  | nil => simp
  | cons a l ih =>
    rw [List.length_cons, Nat.succ_add]
    exact congrArg (a :: ·) ih

/-- The subscription's chunks go to a buffer. -/
def Subscription.IsBuffered (s : Subscription) : Prop :=
  ∃ index, s.sink = .buffer index

namespace Bench

/-- The chunks of all subscriptions go to buffers. -/
def Buffered (b : Bench) : Prop :=
  ∀ s ∈ b.scheduler.subscriptions, s.IsBuffered

theorem Buffered.mono {b b' : Bench} (buffered : b.Buffered)
    (kept : b'.scheduler.subscriptions.Sublist b.scheduler.subscriptions) : b'.Buffered :=
  fun s there => buffered s (kept.subset there)

end Bench

namespace Past

open Bench (Buffered)

variable {p : Past} {b : Bench}

@[simp] theorem onto_stuck (p : Past) (b : Bench) : (p.onto b).stuck = b.stuck := rfl

@[simp] theorem onto_thread (p : Past) (b : Bench) :
    (p.onto b).scheduler.thread = b.scheduler.thread := rfl

@[simp] theorem onto_threadName (p : Past) (b : Bench) :
    (p.onto b).scheduler.threadName = b.scheduler.threadName := rfl

@[simp] theorem onto_stopRequested (p : Past) (b : Bench) :
    (p.onto b).scheduler.stopRequested = b.scheduler.stopRequested := rfl

@[simp] theorem onto_isRunning (p : Past) (b : Bench) :
    (p.onto b).scheduler.isRunning = b.scheduler.isRunning := rfl

/-! ### Rounds -/

theorem buffer_onto (p : Past) (b : Bench) (index : Nat) :
    (p.onto b).buffer (p.buffers.length + index) = b.buffer index := by
  unfold Bench.buffer onto
  dsimp only
  rw [List.getElem?_append_right (Nat.le_add_right ..), Nat.add_sub_cancel_left]

theorem notes_onto (p : Past) (notices : List Notice) (b : Bench) :
    notices.foldl (fun b n => b.note n) (p.onto b)
      = p.onto (notices.foldl (fun b n => b.note n) b) := by
  rw [Bench.foldl_note, Bench.foldl_note]
  unfold Bench.onRack onto Rack.under
  simp only [List.append_assoc]

theorem note_onto (p : Past) (n : Notice) (b : Bench) : (p.onto b).note n = p.onto (b.note n) :=
  p.notes_onto [n] b

theorem buffered_notes (buffered : b.Buffered) (notices : List Notice) :
    (notices.foldl (fun b n => b.note n) b).Buffered := by
  rw [Bench.foldl_note]
  exact buffered.mono (.refl _)

theorem remove_onto (p : Past) (id : Nat) (b : Bench) :
    (p.onto b).onScheduler (·.remove (p.ids + id)) = p.onto (b.onScheduler (·.remove id)) := by
  have same : (b.scheduler.subscriptions.map p.subscription).filter (·.id != p.ids + id)
      = (b.scheduler.subscriptions.filter (·.id != id)).map p.subscription := by
    rw [List.filter_map]
    congr 2
    funext s
    simp [subscription, bne]
  unfold Bench.onScheduler onto Scheduler.remove scheduler
  dsimp only
  rw [same]

theorem fetch_onto (p : Past) (s : Subscription) (b : Bench) :
    (p.onto b).fetch (p.subscription s) = ((b.fetch s).1, p.onto (b.fetch s).2) := by
  have read : (p.subscription s).link.read (p.onto b).toRack
      = ((s.link.read b.toRack).1, (s.link.read b.toRack).2.under p.log) :=
    s.link.read_under p.log b.toRack
  unfold Bench.fetch
  rw [read]
  unfold onto
  simp only [List.map_append, List.append_assoc, List.map_cons, List.map_nil]
  rfl

theorem dropFailed_onto (p : Past) (s : Subscription) (e : Error) (b : Bench) :
    (p.onto b).dropFailed (p.subscription s) e = p.onto (b.dropFailed s e) := by
  unfold Bench.dropFailed
  dsimp only
  rw [note_onto]
  exact remove_onto p s.id _

theorem deliver_onto {s : Subscription} (buffered : s.IsBuffered) (chunk : Bytes) (p : Past)
    (b : Bench) : (p.onto b).deliver (p.subscription s) chunk = p.onto (b.deliver s chunk) := by
  obtain ⟨index, sink⟩ := buffered
  have moved : (p.subscription s).sink = .buffer (p.buffers.length + index) := by
    rw [subscription, sink]
    rfl
  unfold Bench.deliver Bench.hand
  rw [sink, moved]
  unfold onto
  dsimp only
  rw [modify_append, List.map_append, List.append_assoc]
  rfl

/-- A round above the past reads what it reads without it. -/
theorem serve_onto {s : Subscription} (buffered : s.IsBuffered) (p : Past) (b : Bench) :
    (p.onto b).serve (p.subscription s) = ((b.serve s).1, p.onto (b.serve s).2) := by
  unfold Bench.serve
  rw [fetch_onto]
  rcases b.fetch s with ⟨e | _ | ⟨c, cs⟩, later⟩
  · dsimp only
    rw [dropFailed_onto]
  · rfl
  · dsimp only
    rw [deliver_onto buffered]

theorem serveAll_onto {l : List Subscription} (buffered : ∀ s ∈ l, s.IsBuffered) (p : Past)
    (b : Bench) : Bench.serveAll (l.map p.subscription) (p.onto b)
      = ((Bench.serveAll l b).1, p.onto (Bench.serveAll l b).2) := by
  induction l generalizing b with
  | nil => rfl
  | cons s rest ih =>
    rw [List.map_cons]
    unfold Bench.serveAll
    rw [serve_onto (buffered s List.mem_cons_self)]
    dsimp only
    rw [ih fun s there => buffered s (List.mem_cons_of_mem _ there)]

theorem round_onto (buffered : b.Buffered) (p : Past) :
    (p.onto b).round = (b.round.1, p.onto b.round.2) :=
  serveAll_onto buffered p b

theorem buffered_round (buffered : b.Buffered) : b.round.2.Buffered :=
  buffered.mono (Moment.turns_serveAll b.scheduler.subscriptions b).shrinks.subscriptions

theorem buffered_settle (buffered : b.Buffered) : b.settle.Buffered :=
  buffered.mono (Moment.turns_settle b).shrinks.subscriptions

/-- Running until idle, without what tells that it ends. -/
theorem settle_eq (b : Bench) : b.settle = if b.scheduler.thread = some .alive then
    if b.scheduler.stopRequested then b.onScheduler fun s => { s with thread := some .ended }
    else if b.round.1 then b.round.2.settle else b.round.2
  else b := by
  rw [Bench.settle]
  split
  · split
    · rfl
    · split
      · next later found => rw [found]; rfl
      · next later found => rw [found]; rfl
  · rfl

theorem settle_onto (buffered : b.Buffered) (p : Past) : (p.onto b).settle = p.onto b.settle := by
  have round := round_onto buffered p
  rw [settle_eq (p.onto b), onto_thread, onto_stopRequested]
  fun_induction Bench.settle b with
  | case1 b alive asked =>
    rw [if_pos alive, if_pos asked]
    rfl
  | case2 b alive going later found ih =>
    rw [if_pos alive, if_neg going, round, found, if_pos rfl]
    have next := buffered_round buffered
    rw [found] at next
    rw [settle_eq]
    exact ih next (round_onto next p)
  | case3 b alive going later found =>
    rw [if_pos alive, if_neg going, round, found, if_neg Bool.false_ne_true]
  | case4 b ended =>
    rw [if_neg ended]

/-! ### Starting, stopping and acts on devices -/

theorem requestStop_onto (p : Past) (b : Bench) :
    (p.onto b).requestStop = p.onto b.requestStop := by
  have names : (p.onto b).scheduler.subscriptions.map (·.name)
      = b.scheduler.subscriptions.map (·.name) := by
    unfold onto scheduler
    rw [List.map_map]
    rfl
  unfold Bench.requestStop
  rw [names, onto_threadName]
  dsimp only
  split
  · rfl
  · rw [note_onto]
    rfl

theorem buffered_start (buffered : b.Buffered) : b.start.Buffered := by
  unfold Bench.start
  split
  · exact buffered
  · exact buffered_settle (buffered.mono (.refl _))

theorem start_onto (buffered : b.Buffered) (p : Past) : (p.onto b).start = p.onto b.start := by
  have begun : (b.onScheduler fun s =>
      { s with stopRequested := false, thread := some .alive }).Buffered := buffered.mono (.refl _)
  unfold Bench.start
  rw [onto_isRunning]
  split
  · rfl
  · exact settle_onto begun p

theorem joined_onto (p : Past) (b : Bench) : (p.onto b).joined = p.onto b.joined := by
  obtain ⟨-, -, dropped, -⟩ := Bench.requestStop_spec b
  have idle : b.requestStop.Buffered := by
    intro s there
    rw [dropped] at there
    cases there
  unfold Bench.joined
  rw [requestStop_onto, settle_onto idle, onto_stuck]
  split
  · rfl
  · rfl

/-- Whether a stop fails does not depend on the past. -/
theorem stop_onto (p : Past) (timeout : Numeral) (b : Bench) :
    (p.onto b).stop timeout = ((b.stop timeout).1, p.onto (b.stop timeout).2) := by
  rw [Bench.stop_eq, Bench.stop_eq, joined_onto, onto_thread, onto_isRunning, onto_threadName]
  split
  · rfl
  · split
    · rfl
    · rfl

theorem buffered_stop (buffered : b.Buffered) (timeout : Numeral) :
    (b.stop timeout).2.Buffered := by
  intro s there
  cases thread : b.scheduler.thread with
  | none =>
    rw [Bench.stop_eq, if_pos thread] at there
    exact buffered s there
  | some t =>
    rw [Moment.stop_dropped timeout (thread ▸ Option.some_ne_none t)] at there
    cases there

theorem buffered_perform (buffered : b.Buffered) (act : DeviceAct) :
    (b.perform act).2.Buffered := by
  cases act with
  | pump => exact buffered_settle buffered
  | _ => exact buffered.mono (.refl _)

theorem perform_onto (buffered : b.Buffered) (p : Past) (act : DeviceAct) :
    (p.onto b).perform act = ((b.perform act).1, p.onto (b.perform act).2) := by
  cases act with
  | pump => exact Prod.ext rfl (settle_onto buffered p)
  | _ => rfl

end Past

end AcceptanceBench
