import AcceptanceBench.Proofs.Moment

/-!
The polling of plain links loses no chunk, repeats none and keeps their order. A chunk leaves a
device's queue by one reading alone, and goes to the subscription that the reading was for.
-/

namespace AcceptanceBench

/-- The chunks that hold something. -/
def nonempty (chunks : List Bytes) : List Bytes :=
  chunks.filter (!·.isEmpty)

@[simp] theorem nonempty_append (first second : List Bytes) :
    nonempty (first ++ second) = nonempty first ++ nonempty second :=
  List.filter_append ..

/-- A reading that found nothing, or that failed, hands nothing over. -/
theorem Reading.delivery?_of_nonempty (s : Subscription) (chunk : Bytes) :
    (Reading.mk s (.ok chunk)).delivery?.toList = (nonempty [chunk]).map (⟨s, ·⟩) := by
  cases chunk with
  | nil => rfl
  | cons c cs => rfl

namespace Bench

/-- The chunks that were handed over from a device, in the order of delivery. -/
def handedFrom (endpoint : String) (b : Bench) : List Bytes :=
  (b.deliveries.filter (·.subscription.link.endpoint == endpoint)).map (·.chunk)

/-- What a device has sent is what was handed over from it and what it still holds, and deliveries
are what readings have found. -/
structure Conserved (b : Bench) : Prop where
  chunks : ∀ endpoint, b.handedFrom endpoint ++ nonempty (b.device endpoint).queue
    = nonempty (b.device endpoint).sent
  readings : b.deliveries = b.readings.filterMap Reading.delivery?

end Bench

/-- A subscription to a plain link. -/
def Subscription.IsPlain (s : Subscription) : Prop :=
  ∃ endpoint baud bits, s.link = .plain endpoint baud bits

/-- A reading of a plain link takes the chunks off the front of its device's queue that it hands
over, and at most one empty chunk beside them. -/
theorem Subscription.IsPlain.read {s : Subscription} (plain : s.IsPlain) (r : Rack) :
    ∃ taken, (∀ endpoint, ((s.link.read r).2.device endpoint).sent = (r.device endpoint).sent
        ∧ (r.device endpoint).queue = (if s.link.endpoint = endpoint then taken else [])
          ++ ((s.link.read r).2.device endpoint).queue)
      ∧ (Reading.mk s (s.link.read r).1).delivery?.toList = (nonempty taken).map (⟨s, ·⟩) := by
  obtain ⟨source, baud, bits, link⟩ := plain
  rw [link]
  have untouched : ∀ endpoint, (r.device endpoint).sent = (r.device endpoint).sent
      ∧ (r.device endpoint).queue = (if source = endpoint then [] else [])
        ++ (r.device endpoint).queue := by simp
  unfold Link.read
  dsimp only [Link.endpoint]
  rcases fault : (r.device source).fault .read with _ | f
  · rcases queue : (r.device source).queue with _ | ⟨chunk, rest⟩
    · exact ⟨[], untouched, rfl⟩
    · refine ⟨[chunk], fun endpoint => ?_, Reading.delivery?_of_nonempty s chunk⟩
      rw [Rack.device_alter]
      by_cases same : source = endpoint
      · subst same
        simp [queue]
      · simp [same, Ne.symm same]
  · exact ⟨[], untouched, rfl⟩

namespace Bench

/-- A reading for a plain subscription moves what it takes off a queue into the deliveries. -/
theorem Serves.conserved {s : Subscription} {b b' : Bench} (serves : Serves s b b')
    (plain : s.IsPlain) (conserved : b.Conserved) : b'.Conserved := by
  obtain ⟨taken, devices, handed⟩ := plain.read b.toRack
  refine ⟨fun endpoint => ?_, ?_⟩
  · obtain ⟨sent, queue⟩ := devices endpoint
    rw [← Rack.device_congr serves.devices] at sent queue
    have before := conserved.chunks endpoint
    rw [queue, ← sent, nonempty_append, ← List.append_assoc] at before
    rw [← before]
    congr 1
    unfold handedFrom
    rw [serves.deliveries, handed, List.filter_append, List.map_append]
    congr 1
    by_cases same : s.link.endpoint = endpoint
    · simp [same, List.filter_map, Function.comp_def]
    · simp [same, beq_false_of_ne same, nonempty, List.filter_map, Function.comp_def]
  · rw [serves.deliveries, serves.readings, List.filterMap_append, conserved.readings]
    simp only [List.filterMap_cons, List.filterMap_nil]
    cases (Reading.mk s (s.link.read b.toRack).1).delivery? with
    | none => rfl
    | some d => rfl

/-- What devices send is added to their queues. -/
theorem Spares.conserved {b b' : Bench} (spares : Spares b b') (conserved : b.Conserved) :
    b'.Conserved := by
  refine ⟨fun endpoint => ?_, ?_⟩
  · obtain ⟨chunks, sent, queue⟩ := spares.devices endpoint
    rw [sent, queue, nonempty_append, nonempty_append, ← conserved.chunks endpoint,
      List.append_assoc, handedFrom, handedFrom, spares.deliveries]
  · rw [spares.deliveries, spares.readings, conserved.readings]

end Bench

namespace Moment

/-- Nothing is lost so far, and all that is polled is plain. -/
structure Keeps (m : Moment) : Prop where
  conserved : m.bench.Conserved
  subscribed : ∀ s ∈ m.bench.scheduler.subscriptions, s.IsPlain
  awaiting : ∀ s ∈ m.awaiting, s.IsPlain

theorem Turn.keeps {m m' : Moment} (turn : Turn m m') (keeps : m.Keeps) : m'.Keeps := by
  obtain ⟨shrinks, did⟩ := turn.spec
  have subscribed (s) (member : s ∈ m'.bench.scheduler.subscriptions) : s.IsPlain :=
    keeps.subscribed s (shrinks.subscriptions.subset member)
  rcases did with ⟨s, next, serves⟩ | ⟨spares, awaiting⟩
  · have plain := keeps.awaiting s (by simp [next])
    refine ⟨serves.conserved plain keeps.conserved, subscribed, fun later member => ?_⟩
    exact keeps.awaiting later (by simp [next, member])
  · refine ⟨spares.conserved keeps.conserved, subscribed, ?_⟩
    rcases awaiting with same | ⟨-, begun⟩
    · rw [same]
      exact keeps.awaiting
    · rw [begun]
      exact keeps.subscribed

theorem Next.keeps {m m' : Moment} (next : Next m m') (keeps : m.Keeps) : m'.Keeps := by
  rcases next.spec with turn | ⟨-, idle, spares, changed⟩
  · exact turn.keeps keeps
  · refine ⟨spares.conserved keeps.conserved, fun s member => ?_, by simp [idle]⟩
    rcases changed with shrinks | ⟨added, gains⟩
    · exact keeps.subscribed s (shrinks.subscriptions.subset member)
    · rw [gains.subscriptions] at member
      rcases List.mem_append.mp member with old | new
      · exact keeps.subscribed s old
      · rw [List.mem_singleton.mp new]
        exact gains.plain

theorem Reached.keeps {m : Moment} (reached : Reached m) : m.Keeps := by
  obtain ⟨interval, threadName, course⟩ := reached
  induction course with
  | refl => exact ⟨⟨fun endpoint => rfl, rfl⟩, by simp [Bench.make, Scheduler.stopped], by simp⟩
  | tail _ next ih => exact next.keeps ih

/-- At every moment the chunks that were handed over from a device, followed by those that wait
there, are the chunks that it has sent, in that order. Each went to the one subscription whose
reading took it. -/
theorem Reached.chunks_conserved {m : Moment} (reached : Reached m) (endpoint : String) :
    m.bench.handedFrom endpoint ++ nonempty (m.bench.device endpoint).queue
        = nonempty (m.bench.device endpoint).sent
      ∧ m.bench.deliveries = m.bench.readings.filterMap Reading.delivery? :=
  ⟨reached.keeps.conserved.chunks endpoint, reached.keeps.conserved.readings⟩

/-- Two subscriptions share a device that fails after its second chunk. -/
theorem chunks_conserved_shared :
    let b := afterSteps [.start, .subscribe "one" "/dev/a" (some "") [],
      .subscribe "two" "/dev/a" (some "") [], .device (.feed "/dev/a" [[1], [], [2]]),
      .device .pump, .device (.setFault "/dev/a" .read (some ⟨.transport, "gone"⟩)),
      .device (.feed "/dev/a" [[3]]), .device .pump]
    Reached ⟨b, []⟩ ∧ b.deliveries.map (·.subscription.id) = [1, 1]
      ∧ b.handedFrom "/dev/a" ++ nonempty (b.device "/dev/a").queue = [[1], [2], [3]] := by
  intro b
  have reached : Reached ⟨b, []⟩ := reached_afterSteps _
  refine ⟨reached, by decide +kernel, ?_⟩
  rw [(reached.chunks_conserved "/dev/a").1]
  decide +kernel

end Moment

end AcceptanceBench
