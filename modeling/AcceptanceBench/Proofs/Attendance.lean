import AcceptanceBench.Proofs.Removal

/-!
Subscriptions served while listeners do nothing but raise faults. A fault that a listener raises is
reported and changes nothing else; one that a device raises on reading drops the subscription.
-/

namespace AcceptanceBench

/-- A reaction that asks for nothing; it may still raise a fault. -/
def Reaction.Mild (r : Reaction) : Prop :=
  r.unsubscribe = [] ∧ r.feed = none ∧ r.stop = false

namespace Bench

variable {b b' : Bench} {s : Subscription}

/-- The listeners of the bench do nothing but raise faults. -/
def Mild (b : Bench) : Prop :=
  ∀ l ∈ b.listeners, ∀ r ∈ l.reactions, r.Mild

/-- One reading for a subscription to which nobody reacts but by raising a fault: a subscription
whose link cannot be read is dropped, and otherwise the scheduler stays as it is. -/
structure Attends (s : Subscription) (b b' : Bench) : Prop where
  readings : b'.readings = b.readings ++ [⟨s, (s.link.read b.toRack).1⟩]
  deliveries : b'.deliveries
    = b.deliveries ++ (Reading.mk s (s.link.read b.toRack).1).delivery?.toList
  devices : b'.devices = (s.link.read b.toRack).2.devices
  scheduler : (∃ bytes, (s.link.read b.toRack).1 = .ok bytes) ∧ b'.scheduler = b.scheduler
    ∨ (∃ e, (s.link.read b.toRack).1 = .error e) ∧ b'.scheduler = b.scheduler.remove s.id
  listeners : b'.listeners.length = b.listeners.length
  handles : b'.handles = b.handles
  stuck : b'.stuck = b.stuck
  mild : b'.Mild

/-- A mild reaction is at most reported. -/
theorem react_mild {r : Reaction} (mild : r.Mild) (b : Bench) (s : Subscription) :
    b.react s r = b ∨ ∃ n, b.react s r = b.note n := by
  obtain ⟨keys, feed, stop, raise⟩ := r
  obtain ⟨rfl, rfl, rfl⟩ := mild
  cases raise with
  | none => exact Or.inl rfl
  | some f => exact Or.inr ⟨.callbackFailed s.name f, rfl⟩

theorem fetch_listeners {later : Bench} {outcome : Except Error Bytes}
    (fetched : b.fetch s = (outcome, later)) :
    later.listeners = b.listeners ∧ later.stuck = b.stuck := by
  obtain ⟨-, rfl⟩ := Prod.mk.inj fetched
  exact ⟨rfl, rfl⟩

/-- All that listeners will still do is of some kind. -/
def Reacts (kind : Reaction → Prop) (b : Bench) : Prop :=
  ∀ l ∈ b.listeners, ∀ r ∈ l.reactions, kind r

/-- Handing a chunk over takes one reaction off a listener at most. -/
theorem hand_reacts {kind : Reaction → Prop} (reacts : b.Reacts kind) (s : Subscription)
    (chunk : Bytes) :
    (b.hand s chunk).2.Reacts kind ∧ ∀ r, (b.hand s chunk).1 = some r → kind r := by
  unfold hand
  cases s.sink with
  | buffer index => exact ⟨reacts, by simp⟩
  | listener index =>
    dsimp only
    cases found : b.listeners[index]? with
    | none => exact ⟨reacts, by simp⟩
    | some listener =>
      dsimp only
      cases reactions : listener.reactions with
      | nil => exact ⟨reacts, by simp⟩
      | cons reaction rest =>
        have its := reacts listener (List.mem_of_getElem? found)
        rw [reactions] at its
        refine ⟨fun l there r member => ?_, fun r same => ?_⟩
        · rcases List.mem_or_eq_of_mem_set there with old | rfl
          · exact reacts l old r member
          · exact its r (List.mem_cons_of_mem _ member)
        · cases same
          exact its reaction List.mem_cons_self

/-- Handing a chunk over adds no listener and takes none away. -/
theorem hand_mild (mild : b.Mild) (s : Subscription) (chunk : Bytes) :
    (b.hand s chunk).2.Mild ∧ (∀ r, (b.hand s chunk).1 = some r → r.Mild)
      ∧ (b.hand s chunk).2.listeners.length = b.listeners.length
      ∧ (b.hand s chunk).2.stuck = b.stuck := by
  obtain ⟨mild', mildly⟩ := hand_reacts mild s chunk
  refine ⟨mild', mildly, ?_⟩
  unfold hand
  cases s.sink with
  | buffer index => exact ⟨rfl, rfl⟩
  | listener index =>
    dsimp only
    cases b.listeners[index]? with
    | none => exact ⟨rfl, rfl⟩
    | some listener =>
      dsimp only
      cases listener.reactions with
      | nil => exact ⟨rfl, rfl⟩
      | cons reaction rest => exact ⟨List.length_set .., rfl⟩

/-- A delivery hands the chunk over and carries out the reaction that it calls for. -/
theorem deliver_cases (b : Bench) (s : Subscription) (chunk : Bytes) :
    b.deliver s chunk = (b.hand s chunk).2
      ∨ ∃ r, (b.hand s chunk).1 = some r ∧ b.deliver s chunk = (b.hand s chunk).2.react s r := by
  unfold deliver
  rcases b.hand s chunk with ⟨_ | r, later⟩
  · exact Or.inl rfl
  · exact Or.inr ⟨r, rfl, rfl⟩

/-- A delivery to which a listener reacts mildly is a handing over that may be reported. -/
theorem deliver_mild (mild : b.Mild) (s : Subscription) (chunk : Bytes) :
    b.deliver s chunk = (b.hand s chunk).2
      ∨ ∃ n, b.deliver s chunk = (b.hand s chunk).2.note n := by
  obtain ⟨-, mildly, -⟩ := hand_mild mild s chunk
  rcases deliver_cases b s chunk with same | ⟨r, called, reacted⟩
  · exact Or.inl same
  · rw [reacted]
    exact react_mild (mildly r called) _ s

theorem attends_serve (mild : b.Mild) (s : Subscription) : Attends s b (b.serve s).2 := by
  unfold serve
  rcases fetched : b.fetch s with ⟨e | _ | ⟨c, cs⟩, later⟩ <;>
    obtain ⟨outcome, rack, scheduler, readings, deliveries, handles, -⟩ := fetch_fields fetched <;>
    obtain ⟨listeners, stuck⟩ := fetch_listeners fetched <;>
    have devices : later.devices = (s.link.read b.toRack).2.devices :=
      congrArg Rack.devices rack <;>
    have mild' : later.Mild := by rwa [Mild, listeners]
  · refine ⟨?_, ?_, devices, Or.inr ⟨⟨e, outcome⟩, ?_⟩,
      congrArg List.length listeners, handles, stuck, mild'⟩
    · rw [outcome, ← readings]
      rfl
    · rw [outcome]
      exact deliveries.trans (List.append_nil _).symm
    · rw [← scheduler]
      rfl
  · refine ⟨?_, ?_, devices, Or.inl ⟨⟨[], outcome⟩, scheduler⟩,
      congrArg List.length listeners, handles, stuck, mild'⟩
    · rw [outcome, ← readings]
    · rw [outcome]
      exact deliveries.trans (List.append_nil _).symm
  · obtain ⟨rack', scheduler', readings', deliveries', handles'⟩ := hand_fields later s (c :: cs)
    obtain ⟨kept, -, length, stuck'⟩ := hand_mild mild' s (c :: cs)
    have handed : Attends s b (later.hand s (c :: cs)).2 := by
      refine ⟨?_, ?_, (congrArg Rack.devices rack').trans devices,
        Or.inl ⟨⟨_, outcome⟩, scheduler'.trans scheduler⟩,
        length.trans (congrArg List.length listeners), handles'.trans handles, stuck'.trans stuck,
        kept⟩
      · rw [outcome, ← readings, readings']
      · rw [outcome, ← deliveries, deliveries']
        rfl
    dsimp only
    rcases deliver_mild mild' s (c :: cs) with same | ⟨n, noted⟩
    · rw [same]
      exact handed
    · rw [noted]
      exact ⟨handed.readings, handed.deliveries, handed.devices, handed.scheduler,
        handed.listeners, handed.handles, handed.stuck, handed.mild⟩

/-- A reading that succeeds leaves the scheduler as it is. -/
theorem Attends.scheduler_of_ok (attends : Attends s b b') {bytes : Bytes}
    (read : (s.link.read b.toRack).1 = .ok bytes) : b'.scheduler = b.scheduler := by
  rcases attends.scheduler with ⟨-, same⟩ | ⟨⟨e, failed⟩, -⟩
  · exact same
  · rw [read] at failed
    cases failed

theorem Attends.refused (attends : Attends s b b') (other : String) (stage : Stage) :
    (b'.device other).fault stage = (b.device other).fault stage := by
  rw [Rack.device_congr attends.devices]
  exact congrFun (s.link.alike_read b.toRack other).fields.2.1 stage

theorem found_serve (b : Bench) (s : Subscription) :
    (b.serve s).1 = (Reading.mk s (s.link.read b.toRack).1).delivery?.isSome := by
  unfold serve
  rcases fetched : b.fetch s with ⟨e | _ | ⟨c, cs⟩, later⟩ <;>
    obtain ⟨outcome, -⟩ := fetch_fields fetched <;> rw [outcome] <;> rfl

/-- A round that finds nothing hands nothing over. -/
theorem deliveries_serveAll {l : List Subscription} (mild : b.Mild)
    (quiet : (serveAll l b).1 = false) : (serveAll l b).2.deliveries = b.deliveries := by
  induction l generalizing b with
  | nil => rfl
  | cons s rest ih =>
    have attends := attends_serve mild s
    obtain ⟨unfound, later⟩ : (b.serve s).1 = false ∧ (serveAll rest (b.serve s).2).1 = false :=
      Bool.or_eq_false_iff.mp quiet
    rw [found_serve, Option.isSome_eq_false_iff, Option.isNone_iff_eq_none] at unfound
    refine (ih attends.mild later).trans ?_
    rw [attends.deliveries, unfound]
    exact List.append_nil _

theorem mild_serveAll {l : List Subscription} (mild : b.Mild) : (serveAll l b).2.Mild := by
  induction l generalizing b with
  | nil => exact mild
  | cons s rest ih => exact ih (attends_serve mild s).mild

end Bench

end AcceptanceBench
