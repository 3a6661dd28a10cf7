import AcceptanceBench.Proofs.Attendance

/-!
What can be seen of a bench from one device, where listeners do nothing but raise faults. Serving a
subscription of another device shows nothing there, and serving one of the device's own shows what
the device alone decides; so a round is seen as a round of that device's subscriptions, and one that
hands nothing over from there is seen to change nothing more.
-/

namespace AcceptanceBench

/-- Whether a subscription reads a device. -/
def Subscription.on (endpoint : String) (s : Subscription) : Bool :=
  s.link.endpoint == endpoint

/-- The scheduler without the subscriptions of other devices. -/
def Scheduler.onlyOn (endpoint : String) (s : Scheduler) : Scheduler :=
  { s with subscriptions := s.subscriptions.filter (·.on endpoint) }

theorem Scheduler.onlyOn_remove (endpoint : String) (id : Nat) (s : Scheduler) :
    (s.remove id).onlyOn endpoint = (s.onlyOn endpoint).remove id := by
  simp only [remove, onlyOn, List.filter_comm]

theorem Scheduler.onlyOn_subscribed (endpoint : String) (added : Subscription) (s : Scheduler) :
    ({ s with subscriptions := s.subscriptions ++ [added], nextId := s.nextId + 1 }
        : Scheduler).onlyOn endpoint
      = { s.onlyOn endpoint with
          subscriptions := (s.onlyOn endpoint).subscriptions ++ [added].filter (·.on endpoint)
          nextId := (s.onlyOn endpoint).nextId + 1 } := by
  simp only [onlyOn, List.filter_append]

/-! ### What can be seen from one device -/

/-- What can be seen of a bench from one device: the device, the links that are refused, and the
scheduler, the subscriptions and the deliveries without those of other devices. -/
@[ext] structure Side where
  device : Device
  refused : String → Option Fault
  scheduler : Scheduler
  deliveries : List Delivery
  listeners : Nat
  handles : Table Nat
  stuck : Bool

/-- What can be seen of a bench from a device. -/
def Bench.side (endpoint : String) (b : Bench) : Side where
  device := b.device endpoint
  refused other := (b.device other).fault .factory
  scheduler := b.scheduler.onlyOn endpoint
  deliveries := b.deliveries.filter (·.subscription.on endpoint)
  listeners := b.listeners.length
  handles := b.handles
  stuck := b.stuck

namespace Side

variable {v : Side}

/-- Reading the device once for one of its subscriptions. -/
def serve (v : Side) (s : Subscription) : Side :=
  match v.device.fault .read, v.device.queue with
  | some _, _ => { v with scheduler := v.scheduler.remove s.id }
  | none, [] => v
  | none, chunk :: rest =>
    { v with
      device := { v.device with queue := rest }
      deliveries := v.deliveries ++ (nonempty [chunk]).map (⟨s, ·⟩) }

/-- Reading the device once for each of its subscriptions. -/
def round (v : Side) : Side :=
  v.scheduler.subscriptions.foldl serve v

end Side

/-- A plain link fails while its device raises a fault, and otherwise takes the next chunk. -/
theorem Subscription.IsPlain.read_cases {s : Subscription} (plain : s.IsPlain) (r : Rack) :
    let device := r.device s.link.endpoint
    (∃ f, device.fault .read = some f ∧ s.link.read r = (.error (.fault f), r))
      ∨ device.fault .read = none ∧ (device.queue = [] ∧ s.link.read r = (.ok [], r)
        ∨ ∃ chunk rest, device.queue = chunk :: rest ∧ s.link.read r
          = (.ok chunk, r.alter s.link.endpoint fun d => { d with queue := rest })) := by
  obtain ⟨source, baud, bits, link⟩ := plain
  rw [link]
  unfold Link.read
  dsimp only [Link.endpoint]
  rcases (r.device source).fault .read with _ | f
  · rcases (r.device source).queue with _ | ⟨chunk, rest⟩
    · exact Or.inr ⟨rfl, Or.inl ⟨rfl, rfl⟩⟩
    · exact Or.inr ⟨rfl, Or.inr ⟨chunk, rest, rfl, rfl⟩⟩
  · exact Or.inl ⟨f, rfl, rfl⟩

/-- A plain link whose device raises no fault gives the next chunk, or nothing if none waits. -/
theorem Subscription.IsPlain.read_next {s : Subscription} (plain : s.IsPlain) {r : Rack}
    (readable : (r.device s.link.endpoint).fault .read = none) :
    (s.link.read r).1 = .ok ((r.device s.link.endpoint).queue.headD []) ∧
      ∀ endpoint, ((s.link.read r).2.device endpoint).queue
        = if endpoint = s.link.endpoint then (r.device endpoint).queue.tail
          else (r.device endpoint).queue := by
  rcases plain.read_cases r with ⟨f, fault, -⟩ | ⟨-, ⟨queue, read⟩ | ⟨chunk, rest, queue, read⟩⟩
  · rw [readable] at fault
    cases fault
  · rw [read, queue]
    refine ⟨rfl, fun endpoint => ?_⟩
    split
    · next same => rw [same, queue, List.tail_nil]
    · rfl
  · rw [read, queue]
    refine ⟨rfl, fun endpoint => ?_⟩
    rw [Rack.device_alter]
    split
    · next same => rw [same, queue, List.tail_cons]
    · rfl

namespace Bench

variable {b b' : Bench} {s : Subscription} {endpoint : String}

/-- Dropping a subscription of another device shows nothing here. -/
theorem filter_remove (own : ∀ t ∈ b.scheduler.subscriptions, t.id = s.id → t = s)
    (away : s.on endpoint = false) :
    (b.scheduler.remove s.id).subscriptions.filter (·.on endpoint)
      = b.scheduler.subscriptions.filter (·.on endpoint) := by
  rw [Scheduler.remove, List.filter_filter]
  refine List.filter_congr fun t there => ?_
  by_cases same : t.id = s.id
  · simp [own t there same, away]
  · simp [same]

/-- Serving a subscription of another device shows nothing here. -/
theorem side_serve_away (mild : b.Mild) (plain : s.IsPlain)
    (own : ∀ t ∈ b.scheduler.subscriptions, t.id = s.id → t = s) (away : s.on endpoint = false) :
    (b.serve s).2.side endpoint = b.side endpoint := by
  have attends := attends_serve mild s
  have other : endpoint ≠ s.link.endpoint := fun same => by simp [Subscription.on, same] at away
  refine Side.ext ?_ ?_ ?_ ?_ attends.listeners attends.handles attends.stuck
  · refine (Rack.device_congr attends.devices endpoint).trans ?_
    rcases plain.read_cases b.toRack with ⟨f, -, read⟩ | ⟨-, ⟨-, read⟩ | ⟨chunk, rest, -, read⟩⟩
    · rw [read]; rfl
    · rw [read]; rfl
    · rw [read, Rack.device_alter, if_neg other]; rfl
  · exact funext fun any => attends.refused any .factory
  · rcases attends.scheduler with ⟨-, same⟩ | ⟨-, removed⟩
    · rw [side, side, same]
    · rw [side, side, removed, Scheduler.onlyOn, filter_remove own away]
      rfl
  · rw [side, attends.deliveries, List.filter_append]
    refine (congrArg _ (List.filter_eq_nil_iff.mpr fun d handed => ?_)).trans (List.append_nil _)
    rw [(Reading.of_delivery? (Option.mem_toList.mp handed)).1, away]
    exact Bool.false_ne_true

/-- Serving a subscription of the device shows what the device alone decides. -/
theorem side_serve_here (mild : b.Mild) (plain : s.IsPlain) (here : s.on endpoint = true) :
    (b.serve s).2.side endpoint = (b.side endpoint).serve s := by
  have attends := attends_serve mild s
  obtain rfl : s.link.endpoint = endpoint := by simpa [Subscription.on] using here
  have device := Rack.device_congr attends.devices s.link.endpoint
  have refused : ((b.serve s).2.side s.link.endpoint).refused = (b.side s.link.endpoint).refused :=
    funext fun any => attends.refused any .factory
  have scheduler := attends.scheduler
  have deliveries : ((b.serve s).2.side s.link.endpoint).deliveries
      = (b.side s.link.endpoint).deliveries
        ++ (Reading.mk s (s.link.read b.toRack).1).delivery?.toList := by
    rw [side, attends.deliveries, List.filter_append]
    refine congrArg _ (List.filter_eq_self.mpr fun d handed => ?_)
    rw [(Reading.of_delivery? (Option.mem_toList.mp handed)).1, here]
  unfold Side.serve
  rw [show (b.side s.link.endpoint).device = b.device s.link.endpoint from rfl]
  rcases plain.read_cases b.toRack with
    ⟨f, fault, read⟩ | ⟨fault, ⟨queue, read⟩ | ⟨chunk, rest, queue, read⟩⟩ <;>
    rw [read] at device scheduler deliveries <;> rw [fault]
  · refine Side.ext device refused ?_ (deliveries.trans (List.append_nil _)) attends.listeners
      attends.handles attends.stuck
    rcases scheduler with ⟨⟨bytes, ok⟩, -⟩ | ⟨-, removed⟩
    · cases ok
    · rw [side, side, removed, Scheduler.onlyOn_remove]
  · rw [queue]
    refine Side.ext device refused ?_ (deliveries.trans (List.append_nil _)) attends.listeners
      attends.handles attends.stuck
    rw [side, side, attends.scheduler_of_ok (congrArg Prod.fst read)]
  · rw [queue]
    refine Side.ext ?_ refused ?_ (deliveries.trans ?_) attends.listeners attends.handles
      attends.stuck
    · refine device.trans ?_
      rw [Rack.device_alter, if_pos rfl]
    · rw [side, side, attends.scheduler_of_ok (congrArg Prod.fst read)]
    · rw [Reading.delivery?_of_nonempty]

/-- Subscriptions to plain links that are to be served, none of which shares its id with another. -/
structure Calm (l : List Subscription) (b : Bench) : Prop where
  mild : b.Mild
  plain : ∀ s ∈ l, s.IsPlain
  own : ∀ s ∈ l, ∀ t ∈ b.scheduler.subscriptions, t.id = s.id → t = s

theorem Attends.subscriptions (attends : Attends s b b') :
    b'.scheduler.subscriptions.Sublist b.scheduler.subscriptions := by
  rcases attends.scheduler with ⟨-, same⟩ | ⟨-, removed⟩
  · rw [same]
  · rw [removed]
    exact List.filter_sublist

theorem Calm.serve {rest : List Subscription} (calm : Calm (s :: rest) b) :
    Calm rest (b.serve s).2 := by
  have attends := attends_serve calm.mild s
  refine ⟨attends.mild, fun t later => calm.plain t (List.mem_cons_of_mem s later), ?_⟩
  intro t later u there
  exact calm.own t (List.mem_cons_of_mem s later) u (attends.subscriptions.subset there)

/-- Serving subscriptions shows only the servings of those of the device. -/
theorem side_serveAll {l : List Subscription} (calm : Calm l b) (endpoint : String) :
    (serveAll l b).2.side endpoint
      = (l.filter (·.on endpoint)).foldl Side.serve (b.side endpoint) := by
  induction l generalizing b with
  | nil => rfl
  | cons s rest ih =>
    have plain := calm.plain s List.mem_cons_self
    refine (ih calm.serve).trans ?_
    cases here : s.on endpoint with
    | true =>
      rw [side_serve_here calm.mild plain here, List.filter_cons_of_pos here]
      rfl
    | false =>
      rw [side_serve_away calm.mild plain (calm.own s List.mem_cons_self) here,
        List.filter_cons_of_neg (by simp [here])]

end Bench

namespace Side

variable {v : Side} {l : List Subscription}

theorem serve_of_fault {f : Fault} (fault : v.device.fault .read = some f) (s : Subscription) :
    v.serve s = { v with scheduler := v.scheduler.remove s.id } := by
  rw [serve, fault]

theorem foldl_serve_of_fault {f : Fault} (fault : v.device.fault .read = some f) :
    (l.foldl serve v).device = v.device
      ∧ (l.foldl serve v).scheduler.subscriptions
        = v.scheduler.subscriptions.filter fun t => l.all fun s => t.id != s.id := by
  induction l generalizing v with
  | nil => exact ⟨rfl, (List.filter_eq_self.mpr fun _ _ => rfl).symm⟩
  | cons s rest ih =>
    rw [List.foldl_cons, serve_of_fault fault]
    obtain ⟨device, left⟩ := ih (v := { v with scheduler := v.scheduler.remove s.id }) fault
    refine ⟨device, left.trans ?_⟩
    rw [Scheduler.remove, List.filter_filter]
    refine List.filter_congr fun t _ => ?_
    simp [Bool.and_comm]

/-- Deliveries are only added to. -/
theorem deliveries_foldl_serve (v : Side) (l : List Subscription) :
    ∃ more, (l.foldl serve v).deliveries = v.deliveries ++ more := by
  induction l generalizing v with
  | nil => exact ⟨[], (List.append_nil _).symm⟩
  | cons s rest ih =>
    obtain ⟨more, later⟩ := ih (v.serve s)
    obtain ⟨first, now⟩ : ∃ first, (v.serve s).deliveries = v.deliveries ++ first := by
      unfold serve
      rcases v.device.fault .read with _ | f
      · rcases v.device.queue with _ | ⟨chunk, rest⟩
        · exact ⟨[], (List.append_nil _).symm⟩
        · exact ⟨_, rfl⟩
      · exact ⟨[], (List.append_nil _).symm⟩
    exact ⟨first ++ more, by rw [List.foldl_cons, later, now, List.append_assoc]⟩

theorem queue_serve_isSuffix (v : Side) (s : Subscription) :
    (v.serve s).device.queue <:+ v.device.queue := by
  unfold serve
  rcases v.device.fault .read with _ | f
  · rcases queue : v.device.queue with _ | ⟨chunk, rest⟩
    · exact (congrArg (· <:+ []) queue).mpr (List.suffix_refl _)
    · exact List.suffix_cons chunk rest
  · exact List.suffix_refl _

theorem queue_round_isSuffix (v : Side) : v.round.device.queue <:+ v.device.queue := by
  unfold round
  generalize v.scheduler.subscriptions = l
  induction l generalizing v with
  | nil => exact List.suffix_refl _
  | cons s rest ih => exact (ih (v.serve s)).trans (v.queue_serve_isSuffix s)

/-- A round without a delivery leaves nothing to do: either the device raises a fault and has lost
all its subscriptions, or it has none, or nothing waits there. -/
theorem round_round (chunks : [] ∉ v.device.queue) (quiet : v.round.deliveries = v.deliveries) :
    v.round.round = v.round := by
  cases fault : v.device.fault .read with
  | some f =>
    obtain ⟨-, left⟩ := foldl_serve_of_fault (l := v.scheduler.subscriptions) fault
    have none : v.round.scheduler.subscriptions = [] := by
      refine left.trans (List.filter_eq_nil_iff.mpr fun t there kept => ?_)
      simpa using List.all_eq_true.mp kept t there
    rw [round, none]
    rfl
  | none =>
    cases subscriptions : v.scheduler.subscriptions with
    | nil =>
      have same : v.round = v := by
        rw [round, subscriptions]
        rfl
      rw [same, same]
    | cons s rest =>
      cases queue : v.device.queue with
      | nil =>
        have idle (l : List Subscription) : l.foldl serve v = v := by
          induction l with
          | nil => rfl
          | cons s rest ih => rw [List.foldl_cons, serve, fault, queue, ih]
        have same : v.round = v := idle _
        rw [same, same]
      | cons chunk later =>
        -- The first subscription is handed the first chunk, which holds something.
        exfalso
        have held : chunk ≠ [] := fun empty =>
          chunks (by rw [queue, empty]; exact List.mem_cons_self)
        obtain ⟨more, handed⟩ := deliveries_foldl_serve (v.serve s) rest
        have first : (v.serve s).deliveries = v.deliveries ++ [⟨s, chunk⟩] := by
          rw [serve, fault, queue]
          simp [nonempty, held]
        rw [round, subscriptions, List.foldl_cons, handed, first, List.append_assoc] at quiet
        simpa using List.append_right_eq_self.mp quiet

end Side
end AcceptanceBench
