import AcceptanceBench.Proofs.Conservation

/-!
What is read for a subscription after it was removed. A round goes on with the subscriptions that it
began with, so one that still awaits its turn is served there; no later round serves it.
-/

namespace AcceptanceBench

namespace Bench

/-- The readings for the subscription of an id. -/
def readingsOf (id : Nat) (b : Bench) : List Reading :=
  b.readings.filter (·.subscription.id == id)

/-- The deliveries to the subscription of an id. -/
def deliveriesOf (id : Nat) (b : Bench) : List Delivery :=
  b.deliveries.filter (·.subscription.id == id)

/-- An id that was given to a subscription which is no longer there. -/
structure Ended (id : Nat) (b : Bench) : Prop where
  given : id < b.scheduler.nextId
  dropped : ∀ s ∈ b.scheduler.subscriptions, s.id ≠ id

theorem Shrinks.ended {id : Nat} {b b' : Bench} (shrinks : Shrinks b b') (ended : b.Ended id) :
    b'.Ended id :=
  ⟨shrinks.nextId ▸ ended.given,
    fun s member => ended.dropped s (shrinks.subscriptions.subset member)⟩

/-- The id of a new subscription was never given before. -/
theorem Gains.ended {id : Nat} {b b' : Bench} {added : Subscription} (gains : Gains b b' added)
    (ended : b.Ended id) : b'.Ended id := by
  refine ⟨gains.nextId ▸ Nat.lt_succ_of_lt ended.given, fun s member => ?_⟩
  rw [gains.subscriptions] at member
  rcases List.mem_append.mp member with old | new
  · exact ended.dropped s old
  · rw [List.mem_singleton.mp new, gains.id]
    exact Nat.ne_of_gt ended.given

end Bench

namespace Moment

/-- The places that the subscription of an id still has in the round under way. -/
def awaitingOf (id : Nat) (m : Moment) : List Subscription :=
  m.awaiting.filter (·.id == id)

/-! ### How ids are given out -/

/-- Subscriptions have ids of their own, which were given out, and handles are ids that were given
out. Without a thread there is no subscription. -/
structure Numbered (m : Moment) : Prop where
  given : ∀ s ∈ m.bench.scheduler.subscriptions, s.id < m.bench.scheduler.nextId
  distinct : (m.bench.scheduler.subscriptions.map (·.id)).Nodup
  awaiting : (m.awaiting.map (·.id)).Nodup
  handles : ∀ key id, m.bench.handles.get? key = some id → id < m.bench.scheduler.nextId
  letGo : m.bench.scheduler.thread = none → m.bench.scheduler.subscriptions = []

theorem numbered_of_shrinks {m m' : Moment} (shrinks : Bench.Shrinks m.bench m'.bench)
    (awaiting : (m'.awaiting.map (·.id)).Nodup) (numbered : m.Numbered) : m'.Numbered := by
  refine ⟨fun s member => ?_, ?_, awaiting, fun key id named => ?_, fun none => ?_⟩
  · rw [shrinks.nextId]
    exact numbered.given s (shrinks.subscriptions.subset member)
  · exact numbered.distinct.sublist (shrinks.subscriptions.map _)
  · rw [shrinks.handles] at named
    rw [shrinks.nextId]
    exact numbered.handles key id named
  · rcases shrinks.letGo none with dropped | before
    · exact dropped
    · have kept := shrinks.subscriptions
      rw [numbered.letGo before] at kept
      exact List.sublist_nil.mp kept

theorem numbered_of_gains {m m' : Moment} {added : Subscription}
    (gains : Bench.Gains m.bench m'.bench added) (idle : m'.awaiting = [])
    (numbered : m.Numbered) : m'.Numbered := by
  refine ⟨fun s member => ?_, ?_, by simp [idle], fun key id named => ?_, fun none => ?_⟩
  · rw [gains.subscriptions] at member
    rw [gains.nextId]
    rcases List.mem_append.mp member with old | new
    · exact Nat.lt_succ_of_lt (numbered.given s old)
    · rw [List.mem_singleton.mp new, gains.id]
      exact Nat.lt_succ_self _
  · rw [gains.subscriptions]
    refine nodup_map_concat numbered.distinct fun s there => ?_
    rw [gains.id]
    exact Nat.ne_of_lt (numbered.given s there)
  · obtain ⟨new, handles⟩ := gains.handles
    rw [handles, Table.set, Table.get?_alter] at named
    rw [gains.nextId]
    split at named
    · cases named
      exact gains.id ▸ Nat.lt_succ_self _
    · exact Nat.lt_succ_of_lt (numbered.handles key id named)
  · rw [gains.alive] at none
    cases none

theorem Turn.numbered {m m' : Moment} (turn : Turn m m') (numbered : m.Numbered) :
    m'.Numbered := by
  obtain ⟨shrinks, did⟩ := turn.spec
  refine numbered_of_shrinks shrinks ?_ numbered
  have awaiting := numbered.awaiting
  rcases did with ⟨s, served, -⟩ | ⟨-, same | ⟨-, begun⟩⟩
  · rw [served] at awaiting
    exact (List.nodup_cons.mp awaiting).2
  · rw [same]
    exact awaiting
  · rw [begun]
    exact numbered.distinct

theorem Reached.numbered {m : Moment} (reached : Reached m) : m.Numbered := by
  obtain ⟨interval, threadName, course⟩ := reached
  induction course with
  | refl =>
    refine ⟨?_, ?_, List.nodup_nil, ?_, fun _ => rfl⟩
    · simp [Bench.make, Scheduler.stopped]
    · simp [Bench.make, Scheduler.stopped]
    · simp [Bench.make, Table.get?, Table.empty]
  | tail _ next ih =>
    rcases next.spec with turn | ⟨-, idle, -, shrinks | ⟨added, gains⟩⟩
    · exact turn.numbered ih
    · exact numbered_of_shrinks shrinks (by simp [idle]) ih
    · exact numbered_of_gains gains idle ih

/-- A round has at most one place for an id. -/
theorem length_awaitingOf_le {m : Moment} (numbered : m.Numbered) (id : Nat) :
    (m.awaitingOf id).length ≤ 1 := by
  have counted := List.nodup_iff_count_le_one.mp numbered.awaiting id
  rw [List.count, List.countP_map, List.countP_eq_length_filter] at counted
  exact counted

/-! ### What is read after a subscription has ended -/

/-- What is read for an id from one moment to another takes up as many of its places in the round,
in their order. -/
def UsesUp (id : Nat) (m m' : Moment) : Prop :=
  ∃ more, m'.bench.readingsOf id = m.bench.readingsOf id ++ more
    ∧ m.awaitingOf id = more.map (·.subscription) ++ m'.awaitingOf id

theorem UsesUp.trans {id : Nat} {m₁ m₂ m₃ : Moment} (h₁ : UsesUp id m₁ m₂) (h₂ : UsesUp id m₂ m₃) :
    UsesUp id m₁ m₃ := by
  obtain ⟨first, read₁, used₁⟩ := h₁
  obtain ⟨second, read₂, used₂⟩ := h₂
  refine ⟨first ++ second, ?_, ?_⟩
  · rw [read₂, read₁, List.append_assoc]
  · rw [used₁, used₂, List.map_append, List.append_assoc]

theorem usesUp_of_same {id : Nat} {m m' : Moment} (readings : m'.bench.readings = m.bench.readings)
    (awaiting : m'.awaitingOf id = m.awaitingOf id) : UsesUp id m m' :=
  ⟨[], by rw [Bench.readingsOf, readings, List.append_nil, Bench.readingsOf], by simp [awaiting]⟩

/-- One reading is one place less, and a round that begins has no place for an id that has ended. -/
theorem Turn.usesUp {id : Nat} {m m' : Moment} (turn : Turn m m') (ended : m.bench.Ended id) :
    UsesUp id m m' := by
  obtain ⟨-, ⟨s, served, serves⟩ | ⟨spares, same | ⟨idle, begun⟩⟩⟩ := turn.spec
  · unfold UsesUp Bench.readingsOf awaitingOf
    rw [serves.readings, served]
    by_cases own : s.id = id
    · exact ⟨[⟨s, (s.link.read m.bench.toRack).1⟩], by simp [own], by simp [own]⟩
    · exact ⟨[], by simp [own], by simp [own]⟩
  · exact usesUp_of_same spares.readings (by rw [awaitingOf, same, awaitingOf])
  · refine usesUp_of_same spares.readings ?_
    rw [awaitingOf, awaitingOf, begun, idle, List.filter_nil, List.filter_eq_nil_iff]
    intro s member
    simpa using ended.dropped s member

theorem Next.usesUp {id : Nat} {m m' : Moment} (next : Next m m') (ended : m.bench.Ended id) :
    UsesUp id m m' ∧ m'.bench.Ended id := by
  rcases next.spec with turn | ⟨idle, idle', spares, changed⟩
  · exact ⟨turn.usesUp ended, turn.spec.1.ended ended⟩
  · refine ⟨usesUp_of_same spares.readings (by rw [awaitingOf, idle', awaitingOf, idle]), ?_⟩
    rcases changed with shrinks | ⟨added, gains⟩
    · exact shrinks.ended ended
    · exact gains.ended ended

theorem Course.usesUp {id : Nat} {m m' : Moment} (course : Course m m') (ended : m.bench.Ended id) :
    UsesUp id m m' ∧ m'.bench.Ended id := by
  induction course with
  | refl => exact ⟨usesUp_of_same rfl rfl, ended⟩
  | tail _ next ih =>
    obtain ⟨used, ended⟩ := ih
    obtain ⟨step, ended⟩ := next.usesUp ended
    exact ⟨used.trans step, ended⟩

/-- What was delivered to an id is what the readings for it have found. -/
theorem Reached.deliveriesOf {m : Moment} (reached : Reached m) (id : Nat) :
    m.bench.deliveriesOf id = (m.bench.readingsOf id).filterMap Reading.delivery? := by
  unfold Bench.deliveriesOf Bench.readingsOf
  rw [reached.keeps.conserved.readings, List.filter_filterMap, List.filterMap_filter]
  congr 1
  funext r
  rcases r with ⟨s, e | _ | ⟨c, cs⟩⟩
  · simp [Reading.delivery?]
  · simp [Reading.delivery?]
  · simp [Reading.delivery?, Option.filter]

/-! ### Removal -/

/-- A removal that is over: an unsubscription of an id by its handle, or a stop while it was still
subscribed, on the thread itself in a reaction or from outside between two rounds. -/
inductive Removes (id : Nat) : Moment → Moment → Prop
  | unsubscribe {b : Bench} {rest : List Subscription} {key : String}
      (handle : b.handles.get? key = some id) : Removes id ⟨b, rest⟩ ⟨b.unsubscribe key, rest⟩
  | stopFromThread {b : Bench} {rest : List Subscription}
      (subscribed : ∃ s ∈ b.scheduler.subscriptions, s.id = id) :
      Removes id ⟨b, rest⟩ ⟨b.stopFromThread, rest⟩
  | stop {b : Bench} (timeout : Numeral)
      (subscribed : ∃ s ∈ b.scheduler.subscriptions, s.id = id) :
      Removes id ⟨b, []⟩ ⟨(b.stop timeout).2, []⟩

theorem Removes.course {id : Nat} {m m' : Moment} (removed : Removes id m m') : Course m m' := by
  cases removed with
  | unsubscribe handle => exact (Turn.unsubscribe _).course
  | stopFromThread subscribed => exact Turn.stop.course
  | stop timeout subscribed => exact (ticks_stop timeout _).course

theorem Numbered.started {m : Moment} (numbered : m.Numbered) {id : Nat}
    (subscribed : ∃ s ∈ m.bench.scheduler.subscriptions, s.id = id) :
    m.bench.scheduler.thread ≠ none := by
  obtain ⟨s, member, -⟩ := subscribed
  intro none
  rw [numbered.letGo none] at member
  cases member

/-- A removal takes the subscription out of the scheduler, whichever way it is made. -/
theorem Removes.ended {id : Nat} {m m' : Moment} (removed : Removes id m m')
    (numbered : m.Numbered) : m'.bench.Ended id := by
  have given : id < m.bench.scheduler.nextId := by
    cases removed with
    | unsubscribe handle => exact numbered.handles _ id handle
    | stopFromThread subscribed =>
      obtain ⟨s, member, rfl⟩ := subscribed
      exact numbered.given s member
    | stop timeout subscribed =>
      obtain ⟨s, member, rfl⟩ := subscribed
      exact numbered.given s member
  refine ⟨Nat.lt_of_lt_of_le given removed.course.nextId_le, fun s member => ?_⟩
  cases removed with
  | unsubscribe handle =>
    rw [Bench.unsubscribe, handle] at member
    simpa using (List.mem_filter.mp member).2
  | stopFromThread subscribed =>
    rw [Bench.stopFromThread_dropped (numbered.started subscribed)] at member
    cases member
  | stop timeout subscribed =>
    rw [stop_dropped timeout (numbered.started subscribed)] at member
    cases member

/-- After a removal the links of a subscription are read exactly where the round under way still has
a place for it, which is at most once. So neither a reading nor a delivery follows if, and only if,
the round has none. -/
theorem Removes.silent_iff {id : Nat} {m m' : Moment} (reached : Reached m)
    (removed : Removes id m m') :
    (∀ later, Course m' later → UsesUp id m' later) ∧ (m'.awaitingOf id).length ≤ 1
      ∧ ((∀ later, Course m' later → later.bench.readingsOf id = m'.bench.readingsOf id
          ∧ later.bench.deliveriesOf id = m'.bench.deliveriesOf id)
        ↔ ∀ s ∈ m'.awaiting, s.id ≠ id) := by
  have ended := removed.ended reached.numbered
  have reached := reached.course removed.course
  have noPlace : m'.awaitingOf id = [] ↔ ∀ s ∈ m'.awaiting, s.id ≠ id := by
    simp [awaitingOf, List.filter_eq_nil_iff]
  refine ⟨fun later course => (course.usesUp ended).1, ?_, fun silent => ?_, fun none => ?_⟩
  · exact length_awaitingOf_le reached.numbered id
  · have served := (turns_serveAll m'.awaiting m'.bench).course
    obtain ⟨more, read, used⟩ := (Course.usesUp served ended).1
    rw [(silent _ served).1, List.self_eq_append_right] at read
    rw [← noPlace, used, read]
    rfl
  · intro later course
    obtain ⟨more, read, used⟩ := (course.usesUp ended).1
    rw [noPlace.mpr none] at used
    obtain ⟨unread, -⟩ := List.append_eq_nil_iff.mp used.symm
    rw [List.map_eq_nil_iff.mp unread, List.append_nil] at read
    rw [(reached.course course).deliveriesOf, reached.deliveriesOf, read]
    exact ⟨rfl, rfl⟩

/-- Two listeners, the first of which unsubscribes the second when it is handed a chunk. A chunk
waits for each of them. -/
def rivals : Bench :=
  afterSteps [.start, .subscribe "first" "/dev/a" (some "") [⟨["second"], none, false, none⟩],
    .subscribe "second" "/dev/b" (some "") [], .device (.feed "/dev/a" [[1]]),
    .device (.feed "/dev/b" [[2]])]

/-- The subscription of the listener that unsubscribes the other one. -/
def first : Subscription := ⟨1, "/dev/a", .plain "/dev/a" none none, .listener 0⟩

/-- The subscription that is unsubscribed while it awaits its turn. -/
def second : Subscription := ⟨2, "/dev/b", .plain "/dev/b" none none, .listener 1⟩

/-- The first listener has been handed its chunk, and its reaction is still to come. -/
def reacting : Moment := ⟨((rivals.fetch first).2.hand first [1]).2, [second]⟩

theorem reached_reacting : Reached reacting := by
  have waiting : Reached ⟨rivals, []⟩ := reached_afterSteps _
  have subscribed : rivals.scheduler.subscriptions = [first, second] := by decide +kernel
  have begun : Turn ⟨rivals, []⟩ ⟨rivals, [first, second]⟩ :=
    subscribed ▸ .beginRound (by decide +kernel) (by decide +kernel)
  have fetched : rivals.fetch first = (.ok [1], (rivals.fetch first).2) :=
    Prod.ext (by decide +kernel) rfl
  exact waiting.course (begun.course.trans (Turn.hand fetched).course)

/-- A listener that unsubscribes itself hears no more, though the round goes on. -/
theorem silent_first : Reached reacting
    ∧ Removes 1 reacting ⟨reacting.bench.unsubscribe "first", [second]⟩
    ∧ ∀ later, Course ⟨reacting.bench.unsubscribe "first", [second]⟩ later →
      later.bench.readingsOf 1 = (reacting.bench.unsubscribe "first").readingsOf 1
        ∧ later.bench.deliveriesOf 1 = (reacting.bench.unsubscribe "first").deliveriesOf 1 := by
  have removed : Removes 1 reacting ⟨reacting.bench.unsubscribe "first", [second]⟩ :=
    .unsubscribe (by decide +kernel)
  refine ⟨reached_reacting, removed, (removed.silent_iff reached_reacting).2.2.mpr ?_⟩
  intro s member
  rw [List.mem_singleton.mp member]
  decide

/-- A removal is not always final: a subscription that awaits its turn is served after it. -/
theorem not_silent_second : ¬ ∀ (id : Nat) (m m' : Moment), Reached m → Removes id m m' →
    ∀ later, Course m' later → later.bench.readingsOf id = m'.bench.readingsOf id
      ∧ later.bench.deliveriesOf id = m'.bench.deliveriesOf id := by
  intro final
  have removed : Removes 2 reacting ⟨reacting.bench.unsubscribe "second", [second]⟩ :=
    .unsubscribe (by decide +kernel)
  have served := (turns_serve (reacting.bench.unsubscribe "second") second []).course
  obtain ⟨-, silent⟩ := final 2 reacting _ reached_reacting removed _ served
  have heard : ((reacting.bench.unsubscribe "second").serve second).2.deliveriesOf 2
      ≠ (reacting.bench.unsubscribe "second").deliveriesOf 2 := by decide +kernel
  exact heard silent

end Moment

end AcceptanceBench
