import AcceptanceBench.Proofs.LinkStream
import AcceptanceBench.Step.Scheduler
import Mathlib.Data.List.Nodup

/-!
What the operations of a bench do to the streams of its devices and to its subscriptions. An
operation either reads one link for one subscription, or reads nothing; and it takes subscriptions
away, or adds one.
-/

namespace AcceptanceBench

/-- A list stays without repetitions under a map when one more value is new. -/
theorem nodup_map_concat {α β : Type} {f : α → β} {l : List α} {a : α} (distinct : (l.map f).Nodup)
    (new : ∀ x ∈ l, f x ≠ f a) : ((l ++ [a]).map f).Nodup := by
  rw [List.map_append, List.map_singleton, List.nodup_append]
  refine ⟨distinct, List.nodup_singleton _, ?_⟩
  rintro y member z one rfl
  obtain ⟨x, there, rfl⟩ := List.mem_map.mp member
  exact new x there (List.mem_singleton.mp one)

/-- All that a buffer has received, whether it was discarded or not. -/
def Buffer.received (b : Buffer) : Bytes :=
  b.discarded ++ b.data

/-- What a reading has found; one that failed has found nothing. -/
def Reading.found (r : Reading) : Bytes :=
  match r.outcome with
  | .ok bytes => bytes
  | .error _ => []

/-- What a reading that has found something hands over. -/
def Reading.delivery? (r : Reading) : Option Delivery :=
  match r.outcome with
  | .ok (c :: cs) => some ⟨r.subscription, c :: cs⟩
  | _ => none

/-- A delivery is to the subscription that the reading was for, and hands over what it has found. -/
theorem Reading.of_delivery? {r : Reading} {d : Delivery} (handed : r.delivery? = some d) :
    d.subscription = r.subscription ∧ d.chunk = r.found := by
  rcases r with ⟨s, e | _ | ⟨c, cs⟩⟩
  · simp [Reading.delivery?] at handed
  · simp [Reading.delivery?] at handed
  · cases handed
    exact ⟨rfl, rfl⟩

namespace Bench

/-- One reading for a subscription: it is noted, and handed over if it has found something. -/
structure Serves (s : Subscription) (b b' : Bench) : Prop where
  readings : b'.readings = b.readings ++ [⟨s, (s.link.read b.toRack).1⟩]
  deliveries : b'.deliveries
    = b.deliveries ++ (Reading.mk s (s.link.read b.toRack).1).delivery?.toList
  devices : b'.devices = (s.link.read b.toRack).2.devices
  places : b'.buffers.length = b.buffers.length
  received : ∀ index < b.buffers.length, (b'.buffer index).received = (b.buffer index).received
    ++ if s.sink = .buffer index then (Reading.mk s (s.link.read b.toRack).1).found else []

/-- No reading and no delivery, and nothing received; devices may have sent more, and buffers may
have been added. -/
structure Spares (b b' : Bench) : Prop where
  readings : b'.readings = b.readings
  deliveries : b'.deliveries = b.deliveries
  places : b.buffers.length ≤ b'.buffers.length
  received : ∀ index, (b'.buffer index).received = (b.buffer index).received
  devices : b.toRack.Grows b'.toRack

/-- Subscriptions may have ended, and none has been added. The thread is let go of only when none
is left. -/
structure Shrinks (b b' : Bench) : Prop where
  subscriptions : b'.scheduler.subscriptions.Sublist b.scheduler.subscriptions
  nextId : b'.scheduler.nextId = b.scheduler.nextId
  handles : b'.handles = b.handles
  letGo : b'.scheduler.thread = none →
    b'.scheduler.subscriptions = [] ∨ b.scheduler.thread = none

/-- One more subscription to a plain link, under the next id, on a thread that is alive. -/
structure Gains (b b' : Bench) (added : Subscription) : Prop where
  subscriptions : b'.scheduler.subscriptions = b.scheduler.subscriptions ++ [added]
  id : added.id = b.scheduler.nextId
  nextId : b'.scheduler.nextId = b.scheduler.nextId + 1
  handles : ∃ key, b'.handles = b.handles.set key added.id
  alive : b'.scheduler.thread = some .alive
  plain : ∃ endpoint baud bits, added.link = .plain endpoint baud bits

/-- A scheduler that stays as it is has lost nothing. -/
theorem shrinks_of_same {b b' : Bench} (scheduler : b'.scheduler = b.scheduler)
    (handles : b'.handles = b.handles) : Shrinks b b' :=
  ⟨scheduler ▸ .refl _, congrArg Scheduler.nextId scheduler, handles,
    fun none => Or.inr (scheduler ▸ none)⟩

theorem Shrinks.trans {b₁ b₂ b₃ : Bench} (h₁ : Shrinks b₁ b₂) (h₂ : Shrinks b₂ b₃) :
    Shrinks b₁ b₃ := by
  refine ⟨h₂.subscriptions.trans h₁.subscriptions, h₂.nextId.trans h₁.nextId,
    h₂.handles.trans h₁.handles, fun none => ?_⟩
  rcases h₂.letGo none with dropped | none
  · exact Or.inl dropped
  · refine (h₁.letGo none).imp_left fun dropped => ?_
    have kept := h₂.subscriptions
    rw [dropped] at kept
    exact List.sublist_nil.mp kept

/-- Removing a subscription leaves the others. -/
theorem shrinks_remove (b : Bench) (id : Nat) : Shrinks b (b.onScheduler (·.remove id)) :=
  ⟨List.filter_sublist, rfl, rfl, Or.inr⟩

theorem shrinks_dropFailed (b : Bench) (s : Subscription) (e : Error) :
    Shrinks b (b.dropFailed s e) :=
  ⟨List.filter_sublist, rfl, rfl, Or.inr⟩

theorem Spares.trans {b₁ b₂ b₃ : Bench} (h₁ : Spares b₁ b₂) (h₂ : Spares b₂ b₃) : Spares b₁ b₃ :=
  ⟨h₂.readings.trans h₁.readings, h₂.deliveries.trans h₁.deliveries,
    Nat.le_trans h₁.places h₂.places, fun index => (h₂.received index).trans (h₁.received index),
    h₁.devices.trans h₂.devices⟩

/-- Buffers that stay as they are have received nothing. -/
theorem spares_of_grows {b b' : Bench} (readings : b'.readings = b.readings)
    (deliveries : b'.deliveries = b.deliveries) (buffers : b'.buffers = b.buffers)
    (devices : b.toRack.Grows b'.toRack) : Spares b b' :=
  ⟨readings, deliveries, Nat.le_of_eq (congrArg List.length buffers.symm),
    fun index => by rw [buffer, buffer, buffers], devices⟩

/-- Where devices and buffers stay as they are, nothing was read and nothing received. -/
theorem spares_of_same {b b' : Bench} (readings : b'.readings = b.readings)
    (deliveries : b'.deliveries = b.deliveries) (buffers : b'.buffers = b.buffers)
    (devices : b'.devices = b.devices) : Spares b b' :=
  spares_of_grows readings deliveries buffers (Rack.grows_of_same devices)

theorem unsubscribe_fields (b : Bench) (key : String) :
    (b.unsubscribe key).devices = b.devices ∧ (b.unsubscribe key).listeners = b.listeners
      ∧ (b.unsubscribe key).scheduler.thread = b.scheduler.thread
      ∧ (b.unsubscribe key).scheduler.stopRequested = b.scheduler.stopRequested := by
  unfold unsubscribe
  cases b.handles.get? key with
  | none => exact ⟨rfl, rfl, rfl, rfl⟩
  | some id => exact ⟨rfl, rfl, rfl, rfl⟩

theorem shrinks_unsubscribe (b : Bench) (key : String) : Shrinks b (b.unsubscribe key) := by
  unfold unsubscribe
  cases b.handles.get? key with
  | none => exact shrinks_of_same rfl rfl
  | some id => exact shrinks_remove b id

theorem spares_unsubscribe (b : Bench) (key : String) : Spares b (b.unsubscribe key) := by
  unfold unsubscribe
  cases b.handles.get? key with
  | none => exact spares_of_same rfl rfl rfl rfl
  | some id => exact spares_of_same rfl rfl rfl rfl

theorem requestStop_spec (b : Bench) :
    Spares b b.requestStop ∧ Shrinks b b.requestStop
      ∧ b.requestStop.scheduler.subscriptions = []
      ∧ b.requestStop.scheduler.thread = b.scheduler.thread := by
  unfold requestStop
  dsimp only
  split
  · exact ⟨spares_of_same rfl rfl rfl rfl,
      ⟨List.nil_sublist _, rfl, rfl, fun _ => Or.inl rfl⟩, rfl, rfl⟩
  · exact ⟨spares_of_same rfl rfl rfl rfl,
      ⟨List.nil_sublist _, rfl, rfl, fun _ => Or.inl rfl⟩, rfl, rfl⟩

theorem stopFromThread_spec (b : Bench) :
    Spares b b.stopFromThread ∧ Shrinks b b.stopFromThread := by
  unfold stopFromThread
  cases b.scheduler.thread with
  | none => exact ⟨spares_of_same rfl rfl rfl rfl, shrinks_of_same rfl rfl⟩
  | some t =>
    obtain ⟨spares, shrinks, dropped, -⟩ := requestStop_spec b
    exact ⟨⟨spares.readings, spares.deliveries, spares.places, spares.received, spares.devices⟩,
      ⟨shrinks.subscriptions, shrinks.nextId, shrinks.handles, fun _ => Or.inl dropped⟩⟩

theorem stopFromThread_dropped {b : Bench} (started : b.scheduler.thread ≠ none) :
    b.stopFromThread.scheduler.subscriptions = [] := by
  obtain ⟨-, -, dropped, -⟩ := requestStop_spec b
  unfold stopFromThread
  cases thread : b.scheduler.thread with
  | none => exact absurd thread started
  | some t => exact dropped

theorem spares_feed (b : Bench) (endpoint : String) (chunks : List Bytes) :
    Spares b (b.feed endpoint chunks) :=
  spares_of_grows rfl rfl rfl (Rack.grows_alter _ endpoint chunks rfl rfl)

/-- A change of a device that leaves its queue and what it has sent. -/
theorem spares_alter (b : Bench) (endpoint : String) {change : Device → Device}
    (sent : ∀ d, (change d).sent = d.sent) (queue : ∀ d, (change d).queue = d.queue) :
    Spares b (b.onRack (·.alter endpoint change)) :=
  spares_of_grows rfl rfl rfl
    (Rack.grows_alter _ endpoint [] (by simp [sent]) (by simp [queue]))

/-- An act on a device other than running the thread sends at most what it feeds. -/
theorem perform_spec (b : Bench) {act : DeviceAct} (still : act ≠ .pump) :
    Spares b (b.perform act).2 ∧ Shrinks b (b.perform act).2 := by
  cases act with
  | feed endpoint chunks => exact ⟨spares_feed b endpoint chunks, shrinks_of_same rfl rfl⟩
  | setFault endpoint stage fault =>
    exact ⟨spares_alter b endpoint (fun _ => rfl) fun _ => rfl, shrinks_of_same rfl rfl⟩
  | echo endpoint =>
    exact ⟨spares_alter b endpoint (fun _ => rfl) fun _ => rfl, shrinks_of_same rfl rfl⟩
  | short endpoint count =>
    exact ⟨spares_alter b endpoint (fun _ => rfl) fun _ => rfl, shrinks_of_same rfl rfl⟩
  | unplug endpoint =>
    exact ⟨spares_alter b endpoint (fun _ => rfl) fun _ => rfl, shrinks_of_same rfl rfl⟩
  | inspect endpoint =>
    exact ⟨spares_alter b endpoint (fun _ => rfl) fun _ => rfl, shrinks_of_same rfl rfl⟩
  | pump => exact absurd rfl still
  | stick stuck => exact ⟨spares_of_same rfl rfl rfl rfl, shrinks_of_same rfl rfl⟩

/-- Listening either fails and leaves all as it is, or adds one subscription. -/
theorem listen_spec (b : Bench) (key endpoint : String) (name : Option String)
    (reactions : List Reaction) :
    Spares b (b.listen key endpoint name reactions).2
      ∧ (Shrinks b (b.listen key endpoint name reactions).2
        ∨ ∃ added, Gains b (b.listen key endpoint name reactions).2 added) := by
  have same : Spares b b ∧ (Shrinks b b ∨ ∃ added, Gains b b added) :=
    ⟨spares_of_same rfl rfl rfl rfl, Or.inl (shrinks_of_same rfl rfl)⟩
  unfold listen Link.makePlain
  cases (b.device endpoint).fault .factory with
  | some f => exact same
  | none =>
    cases name with
    | none => exact same
    | some name =>
      unfold Scheduler.subscribe
      cases running : b.scheduler.isRunning with
      | false => exact same
      | true =>
        refine ⟨spares_of_same rfl rfl rfl rfl, Or.inr ⟨_, rfl, rfl, rfl, ?_, ?_, ?_⟩⟩
        · exact ⟨key, rfl⟩
        · exact eq_of_beq running
        · exact ⟨endpoint, none, none, rfl⟩

theorem fetch_fields {b later : Bench} {s : Subscription} {outcome : Except Error Bytes}
    (fetched : b.fetch s = (outcome, later)) :
    (s.link.read b.toRack).1 = outcome ∧ later.toRack = (s.link.read b.toRack).2
      ∧ later.scheduler = b.scheduler ∧ later.readings = b.readings ++ [⟨s, outcome⟩]
      ∧ later.deliveries = b.deliveries ∧ later.handles = b.handles
      ∧ later.buffers = b.buffers := by
  obtain ⟨rfl, rfl⟩ := Prod.mk.inj fetched
  exact ⟨rfl, rfl, rfl, rfl, rfl, rfl, rfl⟩

theorem hand_fields (b : Bench) (s : Subscription) (chunk : Bytes) :
    (b.hand s chunk).2.toRack = b.toRack ∧ (b.hand s chunk).2.scheduler = b.scheduler
      ∧ (b.hand s chunk).2.readings = b.readings
      ∧ (b.hand s chunk).2.deliveries = b.deliveries ++ [⟨s, chunk⟩]
      ∧ (b.hand s chunk).2.handles = b.handles := by
  unfold hand
  cases s.sink with
  | buffer index => exact ⟨rfl, rfl, rfl, rfl, rfl⟩
  | listener index =>
    dsimp only
    cases b.listeners[index]? with
    | none => exact ⟨rfl, rfl, rfl, rfl, rfl⟩
    | some listener =>
      dsimp only
      cases listener.reactions with
      | nil => exact ⟨rfl, rfl, rfl, rfl, rfl⟩
      | cons reaction rest => exact ⟨rfl, rfl, rfl, rfl, rfl⟩

/-- Handing a chunk over adds it to what one buffer has received, if it goes to a buffer. -/
theorem hand_received (b : Bench) (s : Subscription) (chunk : Bytes) :
    (b.hand s chunk).2.buffers.length = b.buffers.length
      ∧ ∀ index < b.buffers.length, ((b.hand s chunk).2.buffer index).received
        = (b.buffer index).received ++ if s.sink = .buffer index then chunk else [] := by
  unfold hand
  cases s.sink with
  | buffer place =>
    refine ⟨List.length_modify .., fun index there => ?_⟩
    simp only [buffer, List.getElem?_modify, List.getElem?_eq_getElem there, Sink.buffer.injEq]
    by_cases own : place = index
    · simp [own, Buffer.received, Buffer.append]
    · simp [own]
  | listener place =>
    have same : ∀ index < b.buffers.length, (b.buffer index).received
        = (b.buffer index).received
          ++ if Sink.listener place = .buffer index then chunk else [] := by
      simp
    dsimp only
    cases b.listeners[place]? with
    | none => exact ⟨rfl, same⟩
    | some listener =>
      dsimp only
      cases listener.reactions with
      | nil => exact ⟨rfl, same⟩
      | cons reaction rest => exact ⟨rfl, same⟩

/-- Several entries in the log are added at once. -/
theorem foldl_note (notices : List Notice) (b : Bench) :
    notices.foldl (fun b n => b.note n) b
      = b.onRack fun r => { r with log := r.log ++ notices } := by
  induction notices generalizing b with
  | nil =>
    rw [List.foldl_nil]
    simp only [List.append_nil]
    rfl
  | cons n rest ih =>
    rw [List.foldl_cons, ih]
    simp only [note, onRack, Rack.note, List.append_assoc, List.singleton_append]

end Bench

end AcceptanceBench
