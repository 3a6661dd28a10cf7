import AcceptanceBench.Proofs.Serving
import AcceptanceBench.Proofs.Side
import Mathlib.Logic.Function.Iterate

/-!
How the thread comes to rest, round by round. It goes round as often as a round delivers, and no
more often than there are chunks that wait or that listeners will feed. Where it stays in service it
leaves no chunk on a device that is still subscribed; and where every device has one subscription
and nobody interferes, round `k` delivers the `k`-th chunk of each queue that has one.
-/

namespace AcceptanceBench

/-- The chunks that a reaction feeds to a device. -/
def Reaction.fedTo (endpoint : String) (r : Reaction) : List Bytes :=
  match r.feed with
  | some (fed, chunks) => if endpoint = fed then chunks else []
  | none => []

namespace Bench

variable {b b' : Bench} {s : Subscription} {l : List Subscription} {n : Nat}

/-! ### The number of rounds -/

/-- The bench after some rounds. -/
def rounds (k : Nat) (b : Bench) : Bench :=
  (fun b => b.round.2)^[k] b

theorem rounds_succ (k : Nat) (b : Bench) : b.rounds (k + 1) = b.round.2.rounds k :=
  Function.iterate_succ_apply ..

theorem rounds_succ' (k : Nat) (b : Bench) : b.rounds (k + 1) = (b.rounds k).round.2 :=
  Function.iterate_succ_apply' ..

/-- What serving one subscription keeps holds after every round. -/
theorem rounds_keeps {holds : Bench → Prop} (kept : ∀ b s, holds b → holds (b.serve s).2)
    (first : holds b) (k : Nat) : holds (b.rounds k) := by
  have all (l : List Subscription) {b : Bench} (first : holds b) : holds (serveAll l b).2 := by
    induction l generalizing b with
    | nil => exact first
    | cons s rest ih => exact ih (kept b s first)
  induction k generalizing b with
  | zero => exact first
  | succ k ih =>
    rw [rounds_succ]
    exact ih (all _ first)

/-- The bench once its thread, if it is alive, has ended. -/
def quit (b : Bench) : Bench :=
  b.onScheduler fun s => { s with thread := if s.isRunning then some .ended else s.thread }

/-- The thread is idle after some rounds: it is in service, and one more round delivers nothing. -/
structure IdleAfter (n : Nat) (b : Bench) : Prop where
  serving : (b.rounds n).Serving
  quiet : (b.rounds n).round.1 = false
  settled : b.settle = b.rounds (n + 1)

/-- The thread has ended after some rounds: it is not in service any more. -/
structure EndsAfter (n : Nat) (b : Bench) : Prop where
  ended : ¬ (b.rounds n).Serving
  settled : b.settle = (b.rounds n).quit

theorem settle_of_found (serving : b.Serving) (found : b.round.1 = true) :
    b.settle = b.round.2.settle := by
  rw [settle, if_pos serving.alive, if_neg (serving.going ▸ Bool.false_ne_true)]
  split
  · next later round => rw [round]
  · next later round =>
    rw [round] at found
    cases found

theorem settle_of_quiet (serving : b.Serving) (quiet : b.round.1 = false) :
    b.settle = b.round.2 := by
  rw [settle, if_pos serving.alive, if_neg (serving.going ▸ Bool.false_ne_true)]
  split
  · next later round =>
    rw [round] at quiet
    cases quiet
  · next later round => rw [round]

theorem settle_of_ended (ended : ¬ b.Serving) : b.settle = b.quit := by
  cases alive : b.scheduler.isRunning with
  | false =>
    rw [settle, if_neg (by simpa [Scheduler.isRunning] using alive), quit, onScheduler]
    simp only [alive, Bool.false_eq_true, if_false]
  | true =>
    have asked : b.scheduler.stopRequested = true := by
      by_contra going
      exact ended ⟨eq_of_beq alive, Bool.eq_false_iff.mpr going⟩
    rw [settle_of_asked asked, if_pos alive, quit]
    simp only [onScheduler, alive, if_true]

/-- The thread goes round while rounds deliver, and there are no more of them than chunks. -/
theorem exists_rounds (b : Bench) : ∃ n ≤ b.load,
    (∀ k < n, (b.rounds k).Serving ∧ (b.rounds k).round.1 = true) ∧
      (b.IdleAfter n ∨ b.EndsAfter n) := by
  induction left : b.load using Nat.strong_induction_on generalizing b with
  | _ left' ih =>
    subst left
    by_cases serving : b.Serving
    · cases found : b.round.1 with
      | false =>
        exact ⟨0, Nat.zero_le _, by simp, Or.inl ⟨serving, found, settle_of_quiet serving found⟩⟩
      | true =>
        have less := load_round_lt b found
        obtain ⟨n, few, delivering, ends⟩ := ih _ less b.round.2 rfl
        refine ⟨n + 1, Nat.le_trans (Nat.succ_le_succ few) less, fun k below => ?_, ?_⟩
        · cases k with
          | zero => exact ⟨serving, found⟩
          | succ k =>
            rw [rounds_succ]
            exact delivering k (Nat.lt_of_succ_lt_succ below)
        · refine ends.imp (fun idle => ⟨?_, ?_, ?_⟩) fun ended => ⟨?_, ?_⟩
          · exact (rounds_succ n b).symm ▸ idle.serving
          · exact (rounds_succ n b).symm ▸ idle.quiet
          · rw [settle_of_found serving found, rounds_succ, idle.settled]
          · exact (rounds_succ n b).symm ▸ ended.ended
          · rw [settle_of_found serving found, rounds_succ, ended.settled]
    · exact ⟨0, Nat.zero_le _, by simp, Or.inr ⟨serving, settle_of_ended serving⟩⟩

/-! ### What listeners ask for -/

/-- Devices got what a reaction feeds, and the thread goes on unless the reaction stops it. -/
structure Follows (r : Reaction) (b b' : Bench) : Prop where
  listeners : b'.listeners = b.listeners
  queue (endpoint : String) :
    (b'.device endpoint).queue = (b.device endpoint).queue ++ r.fedTo endpoint
  serving : r.stop = false → b.Serving → b'.Serving

theorem unsubscribe_foldl_fields (keys : List String) (b : Bench) :
    let later := keys.foldl (fun b key => b.unsubscribe key) b
    later.devices = b.devices ∧ later.listeners = b.listeners
      ∧ (b.Serving → later.Serving) := by
  induction keys generalizing b with
  | nil => exact ⟨rfl, rfl, id⟩
  | cons key keys ih =>
    obtain ⟨devices, listeners, thread, asked⟩ := unsubscribe_fields b key
    obtain ⟨devices', listeners', serving⟩ := ih (b.unsubscribe key)
    exact ⟨devices'.trans devices, listeners'.trans listeners, fun first =>
      serving (first.of_same thread asked)⟩

theorem stopFromThread_fields (b : Bench) :
    b.stopFromThread.devices = b.devices ∧ b.stopFromThread.listeners = b.listeners := by
  unfold stopFromThread
  cases b.scheduler.thread with
  | none => exact ⟨rfl, rfl⟩
  | some t =>
    obtain ⟨devices, listeners, -⟩ := requestStop_fields b
    exact ⟨devices, listeners⟩

theorem follows_react (b : Bench) (s : Subscription) (r : Reaction) :
    Follows r b (b.react s r) := by
  obtain ⟨keys, feed, stop, raise⟩ := r
  have raised (b : Bench) :
      Follows ⟨[], none, false, raise⟩ b (b.react s ⟨[], none, false, raise⟩) := by
    cases raise with
    | none => exact ⟨rfl, fun _ => (List.append_nil _).symm, fun _ => id⟩
    | some f =>
      exact ⟨rfl, fun _ => (List.append_nil _).symm, fun _ serving => serving.of_same rfl rfl⟩
  have stopped (b : Bench) :
      Follows ⟨[], none, stop, raise⟩ b (b.react s ⟨[], none, stop, raise⟩) := by
    cases stop with
    | false => exact raised b
    | true =>
      have last := raised b.stopFromThread
      obtain ⟨devices, listeners⟩ := stopFromThread_fields b
      refine ⟨last.listeners.trans listeners, fun endpoint => ?_, fun goesOn => by cases goesOn⟩
      rw [← Rack.device_congr devices]
      exact last.queue endpoint
  have fed (b : Bench) :
      Follows ⟨[], feed, stop, raise⟩ b (b.react s ⟨[], feed, stop, raise⟩) := by
    rcases feed with _ | ⟨source, chunks⟩
    · exact stopped b
    · have last := stopped (b.feed source chunks)
      have fed (endpoint : String) : ((b.feed source chunks).device endpoint).queue
          = (b.device endpoint).queue ++ if endpoint = source then chunks else [] := by
        rw [feed, onRack, Rack.device_alter]
        split
        · next same =>
          rw [same]
          rfl
        · exact (List.append_nil _).symm
      refine ⟨last.listeners, fun endpoint => ?_,
        fun goesOn serving => last.serving goesOn (serving.of_same rfl rfl)⟩
      exact (last.queue endpoint).trans ((List.append_nil _).trans (fed endpoint))
  obtain ⟨devices, listeners, serving⟩ := unsubscribe_foldl_fields keys b
  have last := fed (keys.foldl (fun b key => b.unsubscribe key) b)
  refine ⟨last.listeners.trans listeners, fun endpoint => ?_,
    fun goesOn first => last.serving goesOn (serving first)⟩
  rw [← Rack.device_congr devices]
  exact last.queue endpoint

/-- Serving a subscription reads its link. A reading that fails drops the subscription, one that
finds nothing leaves it at that, and what one finds is handed over. -/
theorem serve_cases (b : Bench) (s : Subscription) :
    (∃ e, (s.link.read b.toRack).1 = .error e
        ∧ b.serve s = (false, (b.fetch s).2.dropFailed s e))
      ∨ ((s.link.read b.toRack).1 = .ok [] ∧ b.serve s = (false, (b.fetch s).2))
      ∨ ∃ chunk, (s.link.read b.toRack).1 = .ok chunk ∧ chunk ≠ []
        ∧ b.serve s = (true, (b.fetch s).2.deliver s chunk) := by
  unfold serve
  rcases fetched : b.fetch s with ⟨e | _ | ⟨c, cs⟩, later⟩ <;>
    obtain ⟨outcome, -⟩ := fetch_fields fetched
  · exact Or.inl ⟨e, outcome, rfl⟩
  · exact Or.inr (Or.inl ⟨outcome, rfl⟩)
  · exact Or.inr (Or.inr ⟨c :: cs, outcome, List.cons_ne_nil c cs, rfl⟩)

theorem Reacts.serve {kind : Reaction → Prop} (reacts : b.Reacts kind) (s : Subscription) :
    (b.serve s).2.Reacts kind := by
  rcases serve_cases b s with ⟨e, -, served⟩ | ⟨-, served⟩ | ⟨chunk, -, -, served⟩ <;> rw [served]
  · exact reacts
  · exact reacts
  · have handed := (hand_reacts (b := (b.fetch s).2) reacts s chunk).1
    rcases deliver_cases (b.fetch s).2 s chunk with same | ⟨r, -, reacted⟩
    · exact same ▸ handed
    · dsimp only
      rw [reacted, Reacts, (follows_react _ s r).listeners]
      exact handed

/-- A thread that no listener stops goes on. -/
theorem Serving.serve (serving : b.Serving) (unstopped : b.Reacts (·.stop = false))
    (s : Subscription) : (b.serve s).2.Serving := by
  rcases serve_cases b s with ⟨e, -, served⟩ | ⟨-, served⟩ | ⟨chunk, -, -, served⟩ <;> rw [served]
  · exact serving.of_same rfl rfl
  · exact serving.of_same rfl rfl
  · obtain ⟨-, goesOn⟩ := hand_reacts (b := (b.fetch s).2) unstopped s chunk
    obtain ⟨-, scheduler, -⟩ := hand_fields (b.fetch s).2 s chunk
    have handed : ((b.fetch s).2.hand s chunk).2.Serving :=
      serving.of_same (congrArg Scheduler.thread scheduler)
        (congrArg Scheduler.stopRequested scheduler)
    rcases deliver_cases (b.fetch s).2 s chunk with same | ⟨r, called, reacted⟩
    · exact same ▸ handed
    · dsimp only
      rw [reacted]
      exact (follows_react _ s r).serving (goesOn r called) handed

theorem Serving.rounds (serving : b.Serving) (unstopped : b.Reacts (·.stop = false)) (k : Nat) :
    (b.rounds k).Serving := by
  have kept (b : Bench) (s : Subscription) (h : b.Serving ∧ b.Reacts (·.stop = false)) :
      (b.serve s).2.Serving ∧ (b.serve s).2.Reacts (·.stop = false) :=
    ⟨h.1.serve h.2 s, h.2.serve s⟩
  exact (rounds_keeps kept ⟨serving, unstopped⟩ k).1

/-- No empty chunk waits on a device, and no listener will feed one. -/
structure Solid (b : Bench) : Prop where
  queued (endpoint : String) : [] ∉ (b.device endpoint).queue
  promised : b.Reacts fun r => ∀ endpoint, [] ∉ r.fedTo endpoint

theorem Solid.serve (solid : b.Solid) (s : Subscription) : (b.serve s).2.Solid := by
  refine ⟨fun endpoint => ?_, solid.promised.serve s⟩
  have fetched : [] ∉ ((b.fetch s).2.device endpoint).queue := fun empty =>
    solid.queued endpoint ((s.link.queue_read_isSuffix b.toRack endpoint).subset empty)
  rcases serve_cases b s with ⟨e, -, served⟩ | ⟨-, served⟩ | ⟨chunk, -, -, served⟩ <;> rw [served]
  · exact fetched
  · exact fetched
  · obtain ⟨-, promised⟩ := hand_reacts (b := (b.fetch s).2) solid.promised s chunk
    obtain ⟨rack, -⟩ := hand_fields (b.fetch s).2 s chunk
    have handed : [] ∉ (((b.fetch s).2.hand s chunk).2.device endpoint).queue := by
      rw [rack]
      exact fetched
    rcases deliver_cases (b.fetch s).2 s chunk with same | ⟨r, called, reacted⟩
    · exact same ▸ handed
    · dsimp only
      rw [reacted, (follows_react _ s r).queue endpoint, List.mem_append, not_or]
      exact ⟨handed, promised r called endpoint⟩

/-! ### A round that delivers nothing -/

/-- Serving that delivers nothing leaves the devices as they are. A subscription that is still there
afterwards has nothing waiting. -/
theorem quiet_serve (chunks : [] ∉ (b.device s.link.endpoint).queue)
    (quiet : (b.serve s).1 = false) :
    (b.serve s).2.devices = b.devices ∧
      (s ∈ (b.serve s).2.scheduler.subscriptions → (b.device s.link.endpoint).queue = []) := by
  have nothing : ∀ c cs, (s.link.read b.toRack).1 ≠ .ok (c :: cs) := by
    intro c cs read
    rw [found_serve, read] at quiet
    cases quiet
  obtain ⟨devices, empty⟩ := s.link.quiet_read chunks nothing
  rcases serve_cases b s with ⟨e, -, served⟩ | ⟨read, served⟩ | ⟨chunk, -, -, served⟩
  · rw [served]
    refine ⟨devices, fun there => ?_⟩
    have kept := (List.mem_filter.mp there).2
    simp at kept
  · rw [served]
    exact ⟨devices, fun _ => empty read⟩
  · rw [served] at quiet
    cases quiet

/-- A round that delivers nothing leaves the devices as they are, and nothing waits for those of its
subscriptions that are still there. -/
theorem quiet_serveAll (chunks : ∀ s ∈ l, [] ∉ (b.device s.link.endpoint).queue)
    (quiet : (serveAll l b).1 = false) :
    (serveAll l b).2.devices = b.devices ∧
      ∀ s ∈ l, s ∈ (serveAll l b).2.scheduler.subscriptions →
        (b.device s.link.endpoint).queue = [] := by
  induction l generalizing b with
  | nil => exact ⟨rfl, by simp⟩
  | cons s rest ih =>
    obtain ⟨own, others⟩ := List.forall_mem_cons.mp chunks
    obtain ⟨unfound, later⟩ : (b.serve s).1 = false ∧ (serveAll rest (b.serve s).2).1 = false :=
      Bool.or_eq_false_iff.mp quiet
    obtain ⟨devices, drained⟩ := quiet_serve own unfound
    have same (endpoint : String) := Rack.device_congr devices endpoint
    obtain ⟨devices', drained'⟩ := ih (by simpa only [same] using others) later
    have shrinks := (Moment.turns_serveAll rest (b.serve s).2).shrinks
    refine ⟨devices'.trans devices, List.forall_mem_cons.mpr ⟨?_, fun t there left => ?_⟩⟩
    · exact fun there => drained (shrinks.subscriptions.subset there)
    · rw [← same]
      exact drained' t there left

/-- A thread that is idle while no empty chunk waits leaves nothing waiting for a subscription that
is still there. -/
theorem IdleAfter.drained (idle : b.IdleAfter n)
    (chunks : ∀ endpoint, [] ∉ ((b.rounds n).device endpoint).queue) :
    ∀ s ∈ b.settle.scheduler.subscriptions, (b.settle.device s.link.endpoint).queue = [] := by
  intro s there
  obtain ⟨devices, drained⟩ := quiet_serveAll (fun s _ => chunks s.link.endpoint) idle.quiet
  have shrinks := (Moment.turns_serveAll (b.rounds n).scheduler.subscriptions (b.rounds n)).shrinks
  rw [idle.settled, rounds_succ'] at there ⊢
  refine (congrArg Device.queue (Rack.device_congr devices s.link.endpoint)).trans ?_
  exact drained s (shrinks.subscriptions.subset there) there

/-! ### One device for each subscription -/

/-- Plain links to devices of their own, which raise no fault on reading and where no empty chunk
waits. Listeners do nothing but raise faults. -/
structure Orderly (l : List Subscription) (b : Bench) : Prop where
  mild : b.Mild
  plain : ∀ s ∈ l, s.IsPlain
  apart : (l.map (·.link.endpoint)).Nodup
  readable : ∀ s ∈ l, (b.device s.link.endpoint).fault .read = none
  chunks : ∀ s ∈ l, [] ∉ (b.device s.link.endpoint).queue

/-- The chunks at one place of the queues that are so long, in the order of the subscriptions. -/
def line (l : List Subscription) (b : Bench) (k : Nat) : List Delivery :=
  l.filterMap fun s => (b.device s.link.endpoint).queue[k]?.map fun chunk => ⟨s, chunk⟩

/-- The first chunk of each queue was delivered, and nothing else has happened. -/
structure Advances (l : List Subscription) (b b' : Bench) : Prop where
  mild : b'.Mild
  scheduler : b'.scheduler = b.scheduler
  deliveries : b'.deliveries = b.deliveries ++ line l b 0
  queue (endpoint : String) : (b'.device endpoint).queue
    = if endpoint ∈ l.map (·.link.endpoint) then (b.device endpoint).queue.tail
      else (b.device endpoint).queue
  fault (endpoint : String) : (b'.device endpoint).fault .read = (b.device endpoint).fault .read

theorem line_cons (s : Subscription) (rest : List Subscription) (b : Bench) (k : Nat) :
    line (s :: rest) b k = line [s] b k ++ line rest b k :=
  List.filterMap_append (l := [s])

theorem advances_serve {rest : List Subscription} (orderly : Orderly (s :: rest) b) :
    Advances [s] b (b.serve s).2 := by
  have attends := attends_serve orderly.mild s
  have chunks := orderly.chunks s List.mem_cons_self
  obtain ⟨read, queue⟩ := (orderly.plain s List.mem_cons_self).read_next
    (orderly.readable s List.mem_cons_self)
  refine ⟨attends.mild, attends.scheduler_of_ok read, ?_, fun endpoint => ?_,
    fun endpoint => attends.refused endpoint .read⟩
  · rw [attends.deliveries, read]
    rcases waiting : (b.device s.link.endpoint).queue with _ | ⟨_ | ⟨c, cs⟩, more⟩
    · simp [Reading.delivery?, line, waiting]
    · simp [waiting] at chunks
    · simp [Reading.delivery?, line, waiting]
  · rw [Rack.device_congr attends.devices, queue, List.map_singleton]
    simp only [List.mem_singleton]

theorem advances_serveAll (orderly : Orderly l b) : Advances l b (serveAll l b).2 := by
  induction l generalizing b with
  | nil => exact ⟨orderly.mild, rfl, (List.append_nil _).symm, fun _ => rfl, fun _ => rfl⟩
  | cons s rest ih =>
    have first := advances_serve orderly
    obtain ⟨alone, apart⟩ := List.nodup_cons.mp orderly.apart
    have others : ∀ t ∈ rest, t.link.endpoint ≠ s.link.endpoint := fun t there same =>
      alone (List.mem_map.mpr ⟨t, there, same⟩)
    have waits : ∀ t ∈ rest, ((b.serve s).2.device t.link.endpoint).queue
        = (b.device t.link.endpoint).queue := fun t there => by
      rw [first.queue, if_neg (by simpa using others t there)]
    have orderly' : Orderly rest (b.serve s).2 := by
      obtain ⟨-, plain, -, readable, chunks⟩ := orderly
      refine ⟨first.mild, fun t there => plain t (List.mem_cons_of_mem _ there), apart,
        fun t there => ?_, fun t there => ?_⟩
      · rw [first.fault]
        exact readable t (List.mem_cons_of_mem _ there)
      · rw [waits t there]
        exact chunks t (List.mem_cons_of_mem _ there)
    have later := ih orderly'
    refine ⟨later.mild, later.scheduler.trans first.scheduler, ?_, fun endpoint => ?_,
      fun endpoint => (later.fault endpoint).trans (first.fault endpoint)⟩
    · refine later.deliveries.trans ?_
      have same : line rest (b.serve s).2 0 = line rest b 0 :=
        List.filterMap_congr fun t there => by rw [waits t there]
      rw [first.deliveries, same, List.append_assoc, ← line_cons]
    · refine (later.queue endpoint).trans ?_
      rw [first.queue, List.map_cons, List.map_cons, List.map_nil]
      by_cases own : endpoint = s.link.endpoint
      · subst own
        simp [alone]
      · simp [own]

/-- After `k` rounds the first `k` chunks of each queue are delivered. -/
structure Paced (k : Nat) (b b' : Bench) : Prop where
  orderly : Orderly b.scheduler.subscriptions b'
  scheduler : b'.scheduler = b.scheduler
  queue : ∀ s ∈ b.scheduler.subscriptions, (b'.device s.link.endpoint).queue
    = (b.device s.link.endpoint).queue.drop k

theorem Paced.line_eq {k : Nat} (paced : Paced k b b') :
    line b.scheduler.subscriptions b' 0 = line b.scheduler.subscriptions b k :=
  List.filterMap_congr fun s there => by rw [paced.queue s there, List.getElem?_drop, Nat.add_zero]

theorem Paced.round {k : Nat} (paced : Paced k b b') : Paced (k + 1) b b'.round.2 ∧
    b'.round.2.deliveries = b'.deliveries ++ line b.scheduler.subscriptions b k := by
  have advances := advances_serveAll paced.orderly
  have same : b'.round = serveAll b.scheduler.subscriptions b' := by
    rw [Bench.round, paced.scheduler]
  rw [same]
  have queue : ∀ s ∈ b.scheduler.subscriptions,
      ((serveAll b.scheduler.subscriptions b').2.device s.link.endpoint).queue
        = (b.device s.link.endpoint).queue.drop (k + 1) := by
    intro s there
    rw [advances.queue, if_pos (List.mem_map_of_mem there), paced.queue s there, List.tail_drop]
  obtain ⟨-, plain, apart, readable, chunks⟩ := paced.orderly
  refine ⟨⟨⟨advances.mild, plain, apart, fun s there => ?_, fun s there empty => ?_⟩,
    advances.scheduler.trans paced.scheduler, queue⟩, paced.line_eq ▸ advances.deliveries⟩
  · rw [advances.fault]
    exact readable s there
  · rw [advances.queue, if_pos (List.mem_map_of_mem there)] at empty
    exact chunks s there (List.mem_of_mem_tail empty)

/-- Round after round, the next chunk of each queue is delivered. -/
theorem Orderly.rounds (orderly : Orderly b.scheduler.subscriptions b) (k : Nat) :
    Paced k b (b.rounds k) ∧
      (b.rounds k).deliveries
        = b.deliveries ++ (List.range k).flatMap (line b.scheduler.subscriptions b) := by
  induction k with
  | zero => exact ⟨⟨orderly, rfl, fun _ _ => rfl⟩, (List.append_nil _).symm⟩
  | succ k ih =>
    obtain ⟨paced, deliveries⟩ := ih
    obtain ⟨paced', delivered⟩ := paced.round
    rw [rounds_succ']
    refine ⟨paced', ?_⟩
    rw [delivered, deliveries, List.range_succ, List.flatMap_append, List.flatMap_singleton,
      List.append_assoc]

/-- No queue is longer than the number of rounds that delivered. -/
theorem Orderly.length_le (orderly : Orderly b.scheduler.subscriptions b) (idle : b.IdleAfter n) :
    ∀ s ∈ b.scheduler.subscriptions, (b.device s.link.endpoint).queue.length ≤ n := by
  obtain ⟨paced, -⟩ := orderly.rounds n
  obtain ⟨-, delivered⟩ := paced.round
  have same : (b.rounds n).round.2.deliveries = (b.rounds n).deliveries :=
    deliveries_serveAll paced.orderly.mild idle.quiet
  have nothing := List.append_right_eq_self.mp (delivered.symm.trans same)
  intro s there
  have beyond := List.filterMap_eq_nil_iff.mp nothing s there
  exact List.getElem?_eq_none_iff.mp (Option.map_eq_none_iff.mp beyond)

/-! ### Coming to rest -/

/-- The thread comes to rest after some rounds that each deliver something. -/
structure RestsAfter (n : Nat) (b : Bench) : Prop where
  delivering : ∀ k < n, (b.rounds k).Serving ∧ (b.rounds k).round.1 = true
  ends : b.IdleAfter n ∨ b.EndsAfter n
  idle : b.Serving → b.Reacts (·.stop = false) → b.IdleAfter n
  solid : b.Solid → ∀ k endpoint, [] ∉ ((b.rounds k).device endpoint).queue
  drained : b.IdleAfter n → (∀ endpoint, [] ∉ ((b.rounds n).device endpoint).queue) →
    ∀ s ∈ b.settle.scheduler.subscriptions, (b.settle.device s.link.endpoint).queue = []
  inTurn : b.Serving → Orderly b.scheduler.subscriptions b →
    b.settle.scheduler.subscriptions = b.scheduler.subscriptions ∧
    (∀ k, (b.rounds (k + 1)).deliveries
      = (b.rounds k).deliveries ++ line b.scheduler.subscriptions b k) ∧
    b.settle.deliveries
      = b.deliveries ++ (List.range n).flatMap (line b.scheduler.subscriptions b) ∧
    ∀ s ∈ b.scheduler.subscriptions, (b.device s.link.endpoint).queue.length ≤ n

/-- Running the thread comes to rest after no more rounds than there are chunks that wait or that
listeners will feed: it is idle, or out of service. It is idle if no listener stops it; and if no
chunk is empty, an idle thread leaves none waiting for a subscription that is still there. Where
every device has one subscription and nobody interferes, round `k` delivers the `k`-th chunk of each
queue that has one, in the order of the subscriptions. -/
theorem settle_rests (b : Bench) : ∃ n ≤ b.load, b.RestsAfter n := by
  obtain ⟨n, few, delivering, ends⟩ := b.exists_rounds
  have idle (serving : b.Serving) (unstopped : b.Reacts (·.stop = false)) : b.IdleAfter n :=
    ends.resolve_right fun ends => ends.ended (serving.rounds unstopped n)
  have solid (solid : b.Solid) (k : Nat) : (b.rounds k).Solid :=
    rounds_keeps (fun _ s solid => solid.serve s) solid k
  refine ⟨n, few, delivering, ends, idle, fun whole k => (solid whole k).queued,
    IdleAfter.drained, fun serving orderly => ?_⟩
  have rests := idle serving fun l there r member => (orderly.mild l there r member).2.2
  obtain ⟨paced, deliveries⟩ := orderly.rounds n
  refine ⟨?_, fun k => ?_, ?_, orderly.length_le rests⟩
  · rw [rests.settled, (orderly.rounds (n + 1)).1.scheduler]
  · rw [rounds_succ']
    exact (orderly.rounds k).1.round.2
  · rw [rests.settled, rounds_succ', ← deliveries]
    exact deliveries_serveAll paced.orderly.mild rests.quiet

/-- Three devices, with three chunks, none and one. -/
def uneven : Bench :=
  Moment.afterSteps [.start, .subscribe "one" "/dev/a" (some "") [],
    .subscribe "two" "/dev/b" (some "") [],
    .subscribe "three" "/dev/c" (some "") [⟨[], none, false, some ⟨.assertion, "late"⟩⟩],
    .device (.feed "/dev/c" [[9]]), .device (.feed "/dev/a" [[1], [2], [3]])]

/-- The device with most chunks makes nobody wait, whatever a listener raises. -/
theorem settle_rests_uneven :
    (∃ n ≤ uneven.load, uneven.RestsAfter n ∧ uneven.settle.deliveries
        = uneven.deliveries ++ (List.range n).flatMap (line uneven.scheduler.subscriptions uneven))
      ∧ uneven.settle.deliveries.map (fun d => (d.subscription.id, d.chunk))
        = [(1, [1]), (3, [9]), (1, [2]), (1, [3])] := by
  have serving : uneven.Serving := ⟨by decide +kernel, by decide +kernel⟩
  have orderly : Orderly uneven.scheduler.subscriptions uneven := by
    refine ⟨?_, (Moment.reached_afterSteps _).keeps.subscribed, ?_, ?_, ?_⟩
    · unfold Mild Reaction.Mild
      decide +kernel
    · decide +kernel
    · decide +kernel
    · decide +kernel
  obtain ⟨n, few, rests⟩ := settle_rests uneven
  obtain ⟨-, -, deliveries, -⟩ := rests.inTurn serving orderly
  exact ⟨⟨n, few, rests, deliveries⟩, by decide +kernel⟩

end Bench

end AcceptanceBench
