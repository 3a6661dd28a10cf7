import AcceptanceBench.Proofs.Coherence

/-!
A channel whose device no other open channel uses receives the device's stream: what waited when it
was opened and all that was sent since, in order, as far as it has been read.
-/

namespace AcceptanceBench

open Bench (Serves Spares)

namespace Bench

variable {s : Subscription} {b b' : Bench}

/-- The bytes that were delivered to a subscription. -/
def bytesTo (s : Subscription) (b : Bench) : Bytes :=
  (b.deliveries.filter (·.subscription == s)).flatMap (·.chunk)

/-- What a reading for a subscription has found it has taken off the queue of the device. -/
theorem Serves.takes (serves : Serves s b b') :
    Rack.Takes s.link.endpoint (Reading.mk s (s.link.read b.toRack).1).found b.toRack
      b'.toRack := by
  obtain ⟨taken, takes, outcome⟩ := s.link.takes_read b.toRack
  have found : (Reading.mk s (s.link.read b.toRack).1).found = taken := by
    rcases outcome with ok | ⟨rfl, e, failed⟩
    · simp [Reading.found, ok]
    · simp [Reading.found, failed]
  intro other
  rw [found, Rack.device_congr serves.devices]
  exact takes other

/-- What a reading has found is delivered to the subscription that it was for. -/
theorem Serves.bytesTo (serves : Serves s b b') (other : Subscription) :
    b'.bytesTo other = b.bytesTo other
      ++ if s = other then (Reading.mk s (s.link.read b.toRack).1).found else [] := by
  unfold Bench.bytesTo
  rw [serves.deliveries, List.filter_append, List.flatMap_append]
  congr 1
  rcases (s.link.read b.toRack).1 with e | _ | ⟨c, cs⟩
  · simp [Reading.delivery?, Reading.found]
  · simp [Reading.delivery?, Reading.found]
  · by_cases own : s = other
    · simp [Reading.delivery?, Reading.found, own]
    · simp [Reading.delivery?, own]

end Bench

/-- No other open channel uses the device of a channel. -/
def Channel.Sole (c : Channel) (opened : List Channel) : Prop :=
  ∀ d ∈ opened, d ≠ c → d.link.endpoint ≠ c.link.endpoint

namespace Scene

open Registry (Closes Enrols)

/-- The device of a channel. -/
abbrev deviceOf (m : Scene) (c : Channel) : Device :=
  m.registry.bench.device c.link.endpoint

/-- The buffer of a channel. -/
abbrev bufferOf (m : Scene) (c : Channel) : Buffer :=
  m.registry.bench.buffer c.buffer

/-- A channel's buffer has received what was delivered to the channel, which together with what
waits at its device is what waited there at first and all that was sent since. -/
structure Follows (first : Registry) (c : Channel) (m : Scene) : Prop where
  place : c.buffer < m.registry.bench.buffers.length
  id : c.subscription.id < m.registry.bench.scheduler.nextId
  apart : ∀ d ∈ m.registry.opened, d ≠ c →
    d.buffer ≠ c.buffer ∧ d.subscription.id ≠ c.subscription.id
  delivered : (m.registry.bench.buffer c.buffer).received
    = m.registry.bench.bytesTo c.subscription
  stream : ∃ later,
    (m.registry.bench.device c.link.endpoint).sent
        = (first.bench.device c.link.endpoint).sent ++ later
      ∧ (m.registry.bench.buffer c.buffer).received
          ++ (m.registry.bench.device c.link.endpoint).queue.flatten
        = (first.bench.device c.link.endpoint).queue.flatten ++ later.flatten

variable {first : Registry} {c : Channel} {m m' : Scene}

/-- What happens next reads the link of one open channel for it, or reads nothing. -/
theorem Next.reads (next : Next m m') (coherent : m.Coherent) :
    (∃ d ∈ m.registry.opened, Serves d.subscription m.registry.bench m'.registry.bench)
      ∨ Spares m.registry.bench m'.registry.bench := by
  rcases next.spec coherent.names with
    ⟨-, -, ⟨s, served, serves⟩ | ⟨spares, -⟩⟩ | ⟨-, closes | ⟨e, enrols⟩⟩
  · obtain ⟨d, there, rfl⟩ := coherent.awaiting s (by simp [served])
    exact Or.inl ⟨d, there, serves⟩
  · exact Or.inr spares
  · exact Or.inr closes.spares
  · exact Or.inr enrols.spares

/-- What a channel has received and what waits at its device grow together by what the device
sends: a reading for the channel moves bytes from the one to the other, and a reading for another
channel touches neither. -/
theorem Next.level (next : Next m m') (coherent : m.Coherent)
    (place : c.buffer < m.registry.bench.buffers.length)
    (apart : ∀ d ∈ m.registry.opened, d ≠ c → d.buffer ≠ c.buffer)
    (sole : c.Sole m.registry.opened) :
    ∃ chunks, (m'.deviceOf c).sent = (m.deviceOf c).sent ++ chunks
      ∧ (m'.bufferOf c).received ++ (m'.deviceOf c).queue.flatten
        = (m.bufferOf c).received ++ (m.deviceOf c).queue.flatten ++ chunks.flatten := by
  rcases next.reads coherent with ⟨d, there, serves⟩ | spares
  · have wired := coherent.wired d there
    obtain ⟨sent, queue⟩ := serves.takes c.link.endpoint
    have received := serves.received c.buffer place
    generalize (Reading.mk d.subscription _).found = found at queue received
    refine ⟨[], by rw [sent, List.append_nil], ?_⟩
    rw [received, queue, List.flatten_nil, List.append_nil, List.append_assoc]
    -- Another channel has another place, and reads another device.
    by_cases own : d = c
    · rw [if_pos (by rw [wired.sink, own]), if_pos (by rw [wired.link, own])]
    · rw [if_neg (by simpa [wired.sink] using apart d there own),
        if_neg (by rw [wired.link]; exact (sole d there own).symm)]
  · obtain ⟨chunks, sent, queue⟩ := spares.devices c.link.endpoint
    refine ⟨chunks, sent, ?_⟩
    rw [spares.received, queue, List.flatten_append, List.append_assoc]

/-- What is received is what is delivered: a reading for another channel adds to neither. -/
theorem Next.delivered (next : Next m m') (coherent : m.Coherent)
    (place : c.buffer < m.registry.bench.buffers.length)
    (apart : ∀ d ∈ m.registry.opened, d ≠ c →
      d.buffer ≠ c.buffer ∧ d.subscription.id ≠ c.subscription.id)
    (delivered : (m.bufferOf c).received = m.registry.bench.bytesTo c.subscription) :
    (m'.bufferOf c).received = m'.registry.bench.bytesTo c.subscription := by
  rcases next.reads coherent with ⟨d, there, serves⟩ | spares
  · have wired := coherent.wired d there
    rw [serves.received c.buffer place, serves.bytesTo, delivered]
    congr 1
    by_cases own : d = c
    · rw [if_pos (by rw [wired.sink, own]), if_pos (by rw [own])]
    · obtain ⟨place, id⟩ := apart d there own
      rw [if_neg (by simpa [wired.sink] using place),
        if_neg fun same => id (congrArg Subscription.id same)]
  · rw [spares.received, delivered, Bench.bytesTo, Bench.bytesTo, spares.deliveries]

/-- A channel keeps its place and its id to itself, whether it stays open or not. -/
theorem Next.apart (next : Next m m') (coherent : m.Coherent)
    (place : c.buffer < m.registry.bench.buffers.length)
    (id : c.subscription.id < m.registry.bench.scheduler.nextId)
    (apart : ∀ d ∈ m.registry.opened, d ≠ c →
      d.buffer ≠ c.buffer ∧ d.subscription.id ≠ c.subscription.id) :
    c.buffer < m'.registry.bench.buffers.length
      ∧ c.subscription.id < m'.registry.bench.scheduler.nextId
      ∧ ∀ d ∈ m'.registry.opened, d ≠ c →
        d.buffer ≠ c.buffer ∧ d.subscription.id ≠ c.subscription.id := by
  rcases next.spec coherent.names with ⟨shrinks, opened, did⟩ | ⟨-, closes | ⟨e, enrols⟩⟩
  · refine ⟨?_, shrinks.nextId ▸ id, opened ▸ apart⟩
    rcases did with ⟨s, -, serves⟩ | ⟨spares, -⟩
    · exact serves.places ▸ place
    · exact Nat.lt_of_lt_of_le place spares.places
  · refine ⟨Nat.lt_of_lt_of_le place closes.spares.places, closes.shrinks.nextId ▸ id, ?_⟩
    intro d there
    exact apart d (closes.opened.subset there)
  · refine ⟨Nat.lt_of_lt_of_le place enrols.spares.places,
      enrols.nextId ▸ Nat.lt_succ_of_lt id, fun d there other => ?_⟩
    rw [enrols.opened] at there
    rcases List.mem_append.mp there with old | new
    · exact apart d old other
    · rw [List.mem_singleton.mp new, enrols.place, enrols.subscription]
      exact ⟨Nat.ne_of_gt place, Nat.ne_of_gt id⟩

/-- What happens next keeps to the stream. -/
theorem Next.follows (next : Next m m') (coherent : m.Coherent) (sole : c.Sole m.registry.opened)
    (follows : m.Follows first c) : m'.Follows first c := by
  obtain ⟨later, sent, stream⟩ := follows.stream
  obtain ⟨place, id, apart⟩ := next.apart coherent follows.place follows.id follows.apart
  have places (d) (there : d ∈ m.registry.opened) (other : d ≠ c) := (follows.apart d there other).1
  obtain ⟨chunks, sent', level⟩ := next.level coherent follows.place places sole
  refine ⟨place, id, apart, next.delivered coherent follows.place follows.apart follows.delivered,
    later ++ chunks, ?_, ?_⟩
  · rw [sent', sent, List.append_assoc]
  · rw [level, stream, List.flatten_append, List.append_assoc]

/-- A channel that was just opened has received nothing. -/
theorem follows_of_enrols {g g' : Registry} (coherent : Coherent ⟨g, []⟩) (enrols : Enrols g g' c) :
    Follows g c ⟨g', []⟩ := by
  have wired := enrols.wired
  have id : c.subscription.id = g.bench.scheduler.nextId := by rw [enrols.subscription]
  have unused : (g'.bench.buffer c.buffer).received = [] := by
    rw [enrols.spares.received, Bench.buffer,
      List.getElem?_eq_none (Nat.le_of_eq enrols.place.symm)]
    rfl
  have undelivered : g'.bench.bytesTo c.subscription = [] := by
    unfold Bench.bytesTo
    rw [enrols.spares.deliveries, List.filter_eq_nil_iff.mpr, List.flatMap_nil]
    intro delivery delivered same
    have before := coherent.delivered delivery delivered
    rw [eq_of_beq same, id] at before
    exact Nat.lt_irrefl _ before
  obtain ⟨chunks, sent, queue⟩ := enrols.spares.devices c.link.endpoint
  refine ⟨wired.place, wired.id, fun d there other => ?_, unused.trans undelivered.symm, chunks,
    sent, ?_⟩
  · rw [enrols.opened] at there
    rcases List.mem_append.mp there with old | new
    · rw [enrols.place, id]
      exact ⟨Nat.ne_of_lt (coherent.wired d old).place, Nat.ne_of_lt (coherent.wired d old).id⟩
    · exact absurd (List.mem_singleton.mp new) other
  · rw [unused, List.nil_append, queue, List.flatten_append]

theorem Follows.course (follows : m.Follows first c) (reached : Reached m)
    (course : CourseWhile c.Sole m m') : m'.Follows first c := by
  induction course with
  | refl => exact follows
  | tail before next ih =>
    have reached := reached.course (CourseWhile.course before)
    exact next.2.follows reached.coherent next.1 ih

/-- While no other open channel uses its device, what was discarded from a channel's buffer, what
the buffer holds and what waits at the device are together what waited there when the channel was
opened and all that the device has sent since. The buffer has received what was delivered to the
channel. -/
theorem openChannel_stream {g₀ g₁ : Registry} {name : String} {baud bits : Whole}
    (reached : Reached ⟨g₀, []⟩) (opens : g₀.openChannel name baud bits = (.ok c, g₁))
    (course : CourseWhile c.Sole ⟨g₁, []⟩ m) :
    let before := g₀.bench.device c.link.endpoint
    let device := m.registry.bench.device c.link.endpoint
    let buffer := m.registry.bench.buffer c.buffer
    (∃ later, device.sent = before.sent ++ later
        ∧ buffer.discarded ++ buffer.data ++ device.queue.flatten
          = before.queue.flatten ++ later.flatten)
      ∧ buffer.discarded ++ buffer.data = m.registry.bench.bytesTo c.subscription := by
  have opening : Next ⟨g₀, []⟩ ⟨g₁, []⟩ := by
    have next := Next.openChannel name baud bits (g := g₀)
    rwa [opens] at next
  have enrols : Enrols g₀ g₁ c := by
    rcases g₀.openChannel_spec name baud bits with ⟨d, opened, enrols⟩ | ⟨⟨e, failed⟩, -⟩
    · rw [opens] at opened enrols
      cases opened
      exact enrols
    · rw [opens] at failed
      cases failed
  have begun := follows_of_enrols reached.coherent enrols
  have follows := begun.course (reached.course (.single opening)) course
  exact ⟨follows.stream, follows.delivered⟩

/-- A registry whose scheduler runs, with a chunk that waits at a device. -/
def waiting : Registry :=
  ((Registry.make none (.ofList [("HIL_SERIAL_DEV", "/dev/a")]) false (.make [] .usual)).perform
    .start).2.perform (.device (.feed "/dev/a" [[1]])) |>.2

/-- The channel that is opened on the device. -/
def serial : Channel :=
  ⟨"Serial", .plain "/dev/a" (some 9600) (some 8), 0,
    ⟨1, "Serial", .plain "/dev/a" (some 9600) (some 8), .buffer 0⟩⟩

/-- The channel's first byte is discarded, and two more follow it. -/
theorem stream_serial :
    let g₁ := (waiting.openChannel "Serial" 9600 8).2
    let g := (((g₁.perform (.device .pump)).2.perform (.resetData "Serial")).2.perform
      (.device (.feed "/dev/a" [[2], [3]]))).2
    Reached ⟨waiting, []⟩ ∧ waiting.openChannel "Serial" 9600 8 = (.ok serial, g₁)
      ∧ CourseWhile serial.Sole ⟨g₁, []⟩ ⟨g, []⟩ ∧ (g.bench.buffer 0).discarded = [1]
      ∧ (∃ later, (g.bench.device "/dev/a").sent = [[1]] ++ later
        ∧ (g.bench.buffer 0).discarded ++ (g.bench.buffer 0).data
            ++ (g.bench.device "/dev/a").queue.flatten = [1] ++ later.flatten) := by
  intro g₁ g
  have reached : Reached ⟨waiting, []⟩ := ((reached_make ..).perform _).perform _
  have opens : waiting.openChannel "Serial" 9600 8 = (.ok serial, g₁) :=
    Prod.ext (by decide +kernel) rfl
  have alone {g : Registry} (opened : g.opened = [serial]) : serial.Sole g.opened := by
    intro d there other
    rw [opened] at there
    exact absurd (List.mem_singleton.mp there) other
  have course : CourseWhile serial.Sole ⟨g₁, []⟩ ⟨g, []⟩ :=
    ((courseWhile_perform (alone (by decide +kernel)) _).trans
      (courseWhile_perform (alone (by decide +kernel)) _)).trans
      (courseWhile_perform (alone (by decide +kernel)) _)
  refine ⟨reached, opens, course, by decide +kernel, ?_⟩
  obtain ⟨⟨later, sent, stream⟩, -⟩ := openChannel_stream reached opens course
  have before : (waiting.bench.device serial.link.endpoint).sent = [[1]]
      ∧ (waiting.bench.device serial.link.endpoint).queue = [[1]] := by decide +kernel
  rw [before.1] at sent
  rw [before.2] at stream
  exact ⟨later, sent, stream⟩

end Scene

end AcceptanceBench
