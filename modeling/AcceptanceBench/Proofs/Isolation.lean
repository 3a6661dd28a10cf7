import AcceptanceBench.Proofs.Polled
import AcceptanceBench.Proofs.Side
import AcceptanceBench.Proofs.Stop
import Mathlib.Data.List.Forall2
import Mathlib.Logic.Function.Iterate

/-!
Subscriptions on different devices leave each other alone. Two runs that differ only in the faults
which other devices raise on reading, and in the faults which listeners raise, look the same from a
device after every step, however often the thread goes round in each of them. What polling drops are
the subscriptions whose own reading failed.
-/

namespace AcceptanceBench

namespace Side

variable {v : Side}

theorem serve_fields (v : Side) (s : Subscription) :
    (v.serve s).scheduler.thread = v.scheduler.thread
      ∧ (v.serve s).scheduler.stopRequested = v.scheduler.stopRequested := by
  unfold serve
  rcases v.device.fault .read with _ | f
  · rcases v.device.queue with _ | ⟨chunk, rest⟩
    · exact ⟨rfl, rfl⟩
    · exact ⟨rfl, rfl⟩
  · exact ⟨rfl, rfl⟩

theorem round_fields (v : Side) :
    v.round.scheduler.thread = v.scheduler.thread
      ∧ v.round.scheduler.stopRequested = v.scheduler.stopRequested := by
  unfold round
  generalize v.scheduler.subscriptions = l
  induction l generalizing v with
  | nil => exact ⟨rfl, rfl⟩
  | cons s rest ih =>
    obtain ⟨thread, asked⟩ := ih (v.serve s)
    obtain ⟨thread', asked'⟩ := v.serve_fields s
    exact ⟨thread.trans thread', asked.trans asked'⟩

/-- Rounds that have come to rest are the same, however many there were. -/
theorem rounds_unique {n k : Nat} (rest : (round^[n] v).round = round^[n] v)
    (rest' : (round^[k] v).round = round^[k] v) : round^[n] v = round^[k] v := by
  have later {n k : Nat} (order : n ≤ k) (rest : (round^[n] v).round = round^[n] v) :
      round^[n] v = round^[k] v := by
    obtain ⟨more, rfl⟩ := Nat.exists_eq_add_of_le order
    rw [Nat.add_comm, Function.iterate_add_apply, Function.iterate_fixed rest]
  rcases Nat.le_total n k with order | order
  · exact later order rest
  · exact (later order rest').symm

end Side

namespace Bench

variable {b b' : Bench} {endpoint : String}

/-! ### Running until idle -/

/-- A bench between two rounds, on which listeners only raise faults and no empty chunk waits on a
device. -/
structure Ready (endpoint : String) (b : Bench) : Prop where
  reached : Moment.Reached ⟨b, []⟩
  mild : b.Mild
  chunks : [] ∉ (b.device endpoint).queue

/-- Subscriptions that are there are all served from plain links and have ids of their own. -/
theorem Ready.calm (ready : Ready endpoint b) : Calm b.scheduler.subscriptions b := by
  refine ⟨ready.mild, ready.reached.keeps.subscribed, fun s there t there' same => ?_⟩
  exact List.inj_on_of_nodup_map ready.reached.numbered.distinct there' there same

/-- A round is seen from a device as a round of its own subscriptions. -/
theorem Ready.side_round (ready : Ready endpoint b) :
    b.round.2.side endpoint = (b.side endpoint).round :=
  side_serveAll ready.calm endpoint

theorem Ready.round (ready : Ready endpoint b) (alive : b.scheduler.thread = some .alive)
    (going : b.scheduler.stopRequested = false) : Ready endpoint b.round.2 := by
  have turns := Moment.turns_serveAll b.scheduler.subscriptions b
  have begins := Moment.Next.tick (.stir (.turn (.beginRound alive going)))
  refine ⟨ready.reached.course (.head begins turns.course),
    mild_serveAll ready.mild, fun empty => ready.chunks ?_⟩
  have taken := (b.side endpoint).queue_round_isSuffix
  rw [← ready.side_round] at taken
  exact taken.subset empty

theorem Ready.settle (ready : Ready endpoint b) : Ready endpoint b.settle := by
  fun_induction Bench.settle b with
  | case1 b alive asked =>
    exact ⟨ready.reached.course (Moment.Turn.finish alive asked).course, ready.mild, ready.chunks⟩
  | case2 b alive going later round ih =>
    have next := ready.round alive (Bool.eq_false_iff.mpr going)
    rw [round] at next
    exact ih next
  | case3 b alive going later round =>
    have next := ready.round alive (Bool.eq_false_iff.mpr going)
    rw [round] at next
    exact next
  | case4 => exact ready

/-- Running until idle is seen from a device as some number of its own rounds, after which another
one would change nothing. -/
theorem Ready.side_settle (ready : Ready endpoint b) (alive : b.scheduler.thread = some .alive)
    (going : b.scheduler.stopRequested = false) :
    ∃ n, b.settle.side endpoint = Side.round^[n] (b.side endpoint)
      ∧ (b.settle.side endpoint).round = b.settle.side endpoint := by
  fun_induction Bench.settle b with
  | case1 b _ asked => exact absurd asked (going ▸ Bool.false_ne_true)
  | case2 b _ _ later round ih =>
    have next := ready.round alive going
    have seen := ready.side_round
    rw [round] at next seen
    obtain ⟨thread, asked⟩ := (b.side endpoint).round_fields
    rw [← seen] at thread asked
    obtain ⟨n, same, rest⟩ := ih next (thread.trans alive) (asked.trans going)
    exact ⟨n + 1, by rw [same, seen, Function.iterate_succ_apply], rest⟩
  | case3 b _ _ later round =>
    have seen := ready.side_round
    have quiet : b.round.2.deliveries = b.deliveries :=
      deliveries_serveAll ready.mild (congrArg Prod.fst round)
    rw [round] at seen quiet
    refine ⟨1, seen, ?_⟩
    rw [seen]
    refine Side.round_round ready.chunks ?_
    rw [← seen]
    exact congrArg (List.filter _) quiet
  | case4 b dead => exact absurd alive dead

/-! ### Operations that look the same -/

theorem side_onScheduler_congr {change : Scheduler → Scheduler}
    (along : ∀ s, (change s).onlyOn endpoint = change (s.onlyOn endpoint))
    (same : b.side endpoint = b'.side endpoint) :
    (b.onScheduler change).side endpoint = (b'.onScheduler change).side endpoint := by
  have seen (b : Bench) : (b.onScheduler change).side endpoint
      = { b.side endpoint with scheduler := change (b.side endpoint).scheduler } := by
    rw [side, onScheduler, along]
    rfl
  rw [seen, seen, same]

/-- Changes of one device that are the same on the device that is looked from, and refuse links in
the same way. -/
theorem side_alter_congr {other : String} {change change' : Device → Device}
    (here : other = endpoint → change = change')
    (refused : ∀ d d' : Device, d.fault .factory = d'.fault .factory →
      (change d).fault .factory = (change' d').fault .factory)
    (same : b.side endpoint = b'.side endpoint) :
    (b.onRack (·.alter other change)).side endpoint
      = (b'.onRack (·.alter other change')).side endpoint := by
  have seen (b : Bench) (change : Device → Device) (any : String) :
      (b.onRack (·.alter other change)).device any
        = if any = other then change (b.device other) else b.device any :=
    Rack.device_alter b.toRack other any change
  have device : b.device endpoint = b'.device endpoint := congrArg Side.device same
  have factory (any : String) : (b.device any).fault .factory = (b'.device any).fault .factory :=
    congrFun (congrArg Side.refused same) any
  refine Side.ext ?_ (funext fun any => ?_) (congrArg Side.scheduler same :)
    (congrArg Side.deliveries same :) (congrArg Side.listeners same :)
    (congrArg Side.handles same :) (congrArg Side.stuck same :)
  · simp only [side, seen]
    split
    · next own => rw [here own.symm, ← own, device]
    · exact device
  · simp only [side, seen]
    split
    · exact refused _ _ (factory other)
    · exact factory any

/-- Benches that look the same from a device come to look the same when they run until idle. -/
theorem side_settle_congr (ready : Ready endpoint b) (ready' : Ready endpoint b')
    (same : b.side endpoint = b'.side endpoint) :
    b.settle.side endpoint = b'.settle.side endpoint := by
  have thread : b.scheduler.thread = b'.scheduler.thread := congrArg (·.scheduler.thread) same
  have asked : b.scheduler.stopRequested = b'.scheduler.stopRequested :=
    congrArg (·.scheduler.stopRequested) same
  by_cases alive : b.scheduler.thread = some .alive
  · have alive' := thread ▸ alive
    cases going : b.scheduler.stopRequested with
    | true =>
      rw [settle, settle, if_pos alive, if_pos alive', if_pos going, if_pos (asked ▸ going)]
      exact side_onScheduler_congr (fun _ => rfl) same
    | false =>
      obtain ⟨n, seen, rest⟩ := ready.side_settle alive going
      obtain ⟨k, seen', rest'⟩ := ready'.side_settle alive' (asked ▸ going)
      rw [seen] at rest ⊢
      rw [seen', ← same] at rest' ⊢
      exact Side.rounds_unique rest rest'
  · rw [settle, settle, if_neg alive, if_neg (thread ▸ alive), same]

theorem Ready.of_same {later : Bench} (ready : Ready endpoint b)
    (reached : Moment.Reached ⟨later, []⟩) (devices : later.devices = b.devices)
    (listeners : later.listeners = b.listeners) : Ready endpoint later := by
  refine ⟨reached, ?_, ?_⟩
  · rw [Mild, listeners]
    exact ready.mild
  · rw [Rack.device_congr devices]
    exact ready.chunks

theorem Ready.alter {other : String} {change : Device → Device} (ready : Ready endpoint b)
    (reached : Moment.Reached ⟨b.onRack (·.alter other change), []⟩)
    (queue : ∀ d : Device, [] ∉ d.queue → [] ∉ (change d).queue) :
    Ready endpoint (b.onRack (·.alter other change)) := by
  refine ⟨reached, ready.mild, fun empty => ?_⟩
  have seen : (b.onRack (·.alter other change)).device endpoint
      = if endpoint = other then change (b.device other) else b.device endpoint :=
    Rack.device_alter b.toRack other endpoint change
  rw [seen] at empty
  split at empty
  · next own => exact queue _ (own ▸ ready.chunks) empty
  · exact ready.chunks empty

/-! ### Steps -/

/-- Asking the thread to end is seen as dropping the device's subscriptions. -/
theorem side_requestStop (b : Bench) :
    b.requestStop.side endpoint = (b.onScheduler fun s =>
      { s with subscriptions := [], stopRequested := true }).side endpoint := by
  unfold requestStop
  dsimp only
  split
  · rfl
  · rfl

theorem Ready.start (ready : Ready endpoint b) : Ready endpoint b.start := by
  unfold Bench.start
  cases idle : b.scheduler.isRunning with
  | true => exact ready
  | false =>
    have launched := ready.reached.course (.single (.tick (.stir (.launch idle))))
    exact (ready.of_same launched rfl rfl).settle

theorem side_start_congr (ready : Ready endpoint b) (ready' : Ready endpoint b')
    (same : b.side endpoint = b'.side endpoint) :
    b.start.side endpoint = b'.start.side endpoint := by
  have running : b.scheduler.isRunning = b'.scheduler.isRunning :=
    congrArg (·.scheduler.isRunning) same
  unfold Bench.start
  cases idle : b.scheduler.isRunning with
  | true => rw [← running, idle]; exact same
  | false =>
    rw [← running, idle]
    have launched := ready.reached.course (.single (.tick (.stir (.launch idle))))
    have launched' := ready'.reached.course (.single (.tick (.stir (.launch (running ▸ idle)))))
    exact side_settle_congr (ready.of_same launched rfl rfl) (ready'.of_same launched' rfl rfl)
      (side_onScheduler_congr (fun _ => rfl) same)

theorem Ready.joined (ready : Ready endpoint b) : Ready endpoint b.joined := by
  obtain ⟨devices, listeners, -⟩ := requestStop_fields b
  have asked := ready.of_same (ready.reached.course (.single (.tick (.stir .requestStop))))
    devices listeners
  unfold Bench.joined
  split
  · exact asked
  · exact asked.settle

theorem side_joined_congr (ready : Ready endpoint b) (ready' : Ready endpoint b')
    (same : b.side endpoint = b'.side endpoint) :
    b.joined.side endpoint = b'.joined.side endpoint := by
  have stuck : b.stuck = b'.stuck := congrArg Side.stuck same
  obtain ⟨devices, listeners, -⟩ := requestStop_fields b
  obtain ⟨devices', listeners', -⟩ := requestStop_fields b'
  have asked : b.requestStop.side endpoint = b'.requestStop.side endpoint := by
    rw [side_requestStop, side_requestStop]
    exact side_onScheduler_congr (fun _ => rfl) same
  unfold Bench.joined
  rw [← stuck]
  split
  · exact asked
  · exact side_settle_congr
      (ready.of_same (ready.reached.course (.single (.tick (.stir .requestStop))))
        devices listeners)
      (ready'.of_same (ready'.reached.course (.single (.tick (.stir .requestStop))))
        devices' listeners')
      asked

theorem Ready.stop (ready : Ready endpoint b) (timeout : Numeral) :
    Ready endpoint (b.stop timeout).2 := by
  have reached := ready.reached.course (Moment.ticks_stop timeout b).course
  rw [stop_eq] at reached ⊢
  split
  · exact ready
  · split
    · exact ready.joined
    · next started ended =>
      rw [if_neg started, if_neg ended] at reached
      exact ready.joined.of_same reached rfl rfl

theorem side_stop_congr (ready : Ready endpoint b) (ready' : Ready endpoint b')
    (same : b.side endpoint = b'.side endpoint) (timeout : Numeral) :
    (b.stop timeout).2.side endpoint = (b'.stop timeout).2.side endpoint := by
  have thread : b.scheduler.thread = b'.scheduler.thread := congrArg (·.scheduler.thread) same
  have later := side_joined_congr ready ready' same
  have running : b.joined.scheduler.isRunning = b'.joined.scheduler.isRunning :=
    congrArg (·.scheduler.isRunning) later
  rw [stop_eq, stop_eq, ← thread, ← running]
  split
  · exact same
  · split
    · exact later
    · exact side_onScheduler_congr (fun _ => rfl) later

theorem side_leave (during : Option String) (b : Bench) :
    (b.leave during).2.side endpoint = (b.stop Scheduler.joinTimeout).2.side endpoint := by
  unfold leave
  rcases b.stop Scheduler.joinTimeout with ⟨e | _, later⟩ <;> cases during <;> rfl

/-- A new listener is seen from a device as one more, and its subscription if it reads that
device. -/
theorem side_listen_congr {reactions reactions' : List Reaction}
    (same : b.side endpoint = b'.side endpoint) (key other : String) (name : Option String) :
    (b.listen key other name reactions).2.side endpoint
      = (b'.listen key other name reactions').2.side endpoint := by
  have factory : (b.device other).fault .factory = (b'.device other).fault .factory :=
    congrFun (congrArg Side.refused same) other
  have running : b.scheduler.isRunning = b'.scheduler.isRunning :=
    congrArg (·.scheduler.isRunning) same
  unfold listen Link.makePlain
  rw [← factory]
  cases (b.device other).fault .factory with
  | some f => exact same
  | none =>
    cases name with
    | none => exact same
    | some name =>
      unfold Scheduler.subscribe
      rw [← running]
      cases b.scheduler.isRunning with
      | false => exact same
      | true =>
        have nextId : b.scheduler.nextId = b'.scheduler.nextId :=
          congrArg (·.scheduler.nextId) same
        have listeners : b.listeners.length = b'.listeners.length := congrArg Side.listeners same
        have scheduler : b.scheduler.onlyOn endpoint = b'.scheduler.onlyOn endpoint :=
          congrArg Side.scheduler same
        refine Side.ext (congrArg Side.device same :) (congrArg Side.refused same :) ?_
          (congrArg Side.deliveries same :) ?_ ?_ (congrArg Side.stuck same :)
        · refine (Scheduler.onlyOn_subscribed endpoint _ b.scheduler).trans
            (Eq.trans ?_ (Scheduler.onlyOn_subscribed endpoint _ b'.scheduler).symm)
          rw [scheduler, nextId, listeners]
        · simp [side, listeners]
        · have handles : b.handles = b'.handles := congrArg Side.handles same
          simp [side, handles, Scheduler.insert, nextId]

end Bench

namespace SchedulerStep

/-- A step that feeds no empty chunk, and whose reactions ask for nothing. -/
def Mild : SchedulerStep → Prop
  | .device (.feed _ chunks) => [] ∉ chunks
  | .subscribe _ _ _ reactions => ∀ r ∈ reactions, r.Mild
  | _ => True

/-- Steps that are the same but for the faults that other devices raise on reading, and those that
listeners raise. -/
inductive Alike (endpoint : String) : SchedulerStep → SchedulerStep → Prop
  | same {step : SchedulerStep} (mild : step.Mild) : Alike endpoint step step
  | fault {other : String} (away : other ≠ endpoint) (f f' : Option Fault) :
      Alike endpoint (.device (.setFault other .read f)) (.device (.setFault other .read f'))
  | listener {key other : String} {name : Option String} {reactions reactions' : List Reaction}
      (mild : ∀ r ∈ reactions, r.Mild) (mild' : ∀ r ∈ reactions', r.Mild) :
      Alike endpoint (.subscribe key other name reactions) (.subscribe key other name reactions')

theorem Alike.mild {endpoint : String} {step step' : SchedulerStep}
    (alike : Alike endpoint step step') : step.Mild ∧ step'.Mild := by
  cases alike with
  | same mild => exact ⟨mild, mild⟩
  | fault => exact ⟨trivial, trivial⟩
  | listener mild mild' => exact ⟨mild, mild'⟩

end SchedulerStep

namespace Bench

variable {b b' : Bench} {endpoint : String}

theorem listen_fields (b : Bench) (key other : String) (name : Option String)
    (reactions : List Reaction) :
    (b.listen key other name reactions).2.devices = b.devices
      ∧ ((b.listen key other name reactions).2.listeners = b.listeners
        ∨ (b.listen key other name reactions).2.listeners = b.listeners ++ [⟨key, reactions⟩]) := by
  unfold listen Link.makePlain
  cases (b.device other).fault .factory with
  | some f => exact ⟨rfl, Or.inl rfl⟩
  | none =>
    cases name with
    | none => exact ⟨rfl, Or.inl rfl⟩
    | some name =>
      unfold Scheduler.subscribe
      cases b.scheduler.isRunning with
      | false => exact ⟨rfl, Or.inl rfl⟩
      | true => exact ⟨rfl, Or.inr rfl⟩

theorem Ready.perform (ready : Ready endpoint b) {act : DeviceAct}
    (mild : (SchedulerStep.device act).Mild) : Ready endpoint (b.perform act).2 := by
  have reached := ready.reached.course (Moment.ticks_perform act b).course
  cases act with
  | feed other chunks =>
    refine ready.alter reached fun d held empty => ?_
    rcases List.mem_append.mp empty with old | new
    · exact held old
    · exact mild new
  | setFault other stage fault => exact ready.alter reached fun _ held => held
  | echo other => exact ready.alter reached fun _ held => held
  | short other count => exact ready.alter reached fun _ held => held
  | unplug other => exact ready.alter reached fun _ held => held
  | inspect other => exact ready.alter reached fun _ held => held
  | pump => exact ready.settle
  | stick stuck => exact ready.of_same reached rfl rfl

theorem Ready.takeStep (ready : Ready endpoint b) {step : SchedulerStep} (mild : step.Mild) :
    Ready endpoint (b.takeStep step).2 := by
  have reached := ready.reached.takeStep step
  cases step with
  | device act => exact ready.perform mild
  | start => exact ready.start
  | stop timeout =>
    cases timeout with
    | none => exact ready
    | some timeout => exact ready.stop timeout
  | enter => exact ready.start
  | leave during =>
    obtain ⟨devices, listeners⟩ := leave_fields during b
    exact (ready.stop _).of_same reached devices listeners
  | subscribe key other name reactions =>
    obtain ⟨devices, listeners⟩ := listen_fields b key other name reactions
    refine ⟨reached, fun l there => ?_, ?_⟩
    · rcases listeners with same | added
      · exact ready.mild l (same ▸ there)
      · rcases List.mem_append.mp (added ▸ there) with old | new
        · exact ready.mild l old
        · rw [List.mem_singleton.mp new]
          exact mild
    · exact (congrArg (fun d : Device => [] ∉ d.queue) (Rack.device_congr devices endpoint)).mpr
        ready.chunks
  | unsubscribe key =>
    obtain ⟨devices, listeners, -⟩ := unsubscribe_fields b key
    exact ready.of_same reached devices listeners

theorem side_perform_congr (ready : Ready endpoint b) (ready' : Ready endpoint b')
    (same : b.side endpoint = b'.side endpoint) (act : DeviceAct) :
    (b.perform act).2.side endpoint = (b'.perform act).2.side endpoint := by
  cases act with
  | feed other chunks => exact side_alter_congr (fun _ => rfl) (fun _ _ kept => kept) same
  | setFault other stage fault =>
    refine side_alter_congr (fun _ => rfl) (fun d d' kept => ?_) same
    simp only [Device.setFault, kept]
  | echo other => exact side_alter_congr (fun _ => rfl) (fun _ _ kept => kept) same
  | short other count => exact side_alter_congr (fun _ => rfl) (fun _ _ kept => kept) same
  | unplug other => exact side_alter_congr (fun _ => rfl) (fun _ _ kept => kept) same
  | inspect other => exact side_alter_congr (fun _ => rfl) (fun _ _ kept => kept) same
  | pump => exact side_settle_congr ready ready' same
  | stick stuck => exact congrArg (fun v : Side => { v with stuck }) same

theorem side_unsubscribe_congr (same : b.side endpoint = b'.side endpoint) (key : String) :
    (b.unsubscribe key).side endpoint = (b'.unsubscribe key).side endpoint := by
  have handles : b.handles = b'.handles := congrArg Side.handles same
  unfold unsubscribe
  rw [← handles]
  cases b.handles.get? key with
  | none => exact same
  | some id => exact side_onScheduler_congr (Scheduler.onlyOn_remove endpoint id) same

/-- Steps that are alike keep benches looking the same. -/
theorem side_takeStep_congr {step step' : SchedulerStep} (alike : step.Alike endpoint step')
    (ready : Ready endpoint b) (ready' : Ready endpoint b')
    (same : b.side endpoint = b'.side endpoint) :
    (b.takeStep step).2.side endpoint = (b'.takeStep step').2.side endpoint := by
  cases alike with
  | fault away f f' =>
    exact side_alter_congr (fun own => absurd own away) (fun _ _ kept => kept) same
  | listener mild mild' => exact side_listen_congr same _ _ _
  | same mild =>
    cases step with
    | device act => exact side_perform_congr ready ready' same act
    | start => exact side_start_congr ready ready' same
    | stop timeout =>
      cases timeout with
      | none => exact same
      | some timeout => exact side_stop_congr ready ready' same timeout
    | enter => exact side_start_congr ready ready' same
    | leave during =>
      have stopped := side_stop_congr ready ready' same Scheduler.joinTimeout
      rw [← side_leave during b, ← side_leave during b'] at stopped
      exact stopped
    | subscribe key other name reactions => exact side_listen_congr same key other name
    | unsubscribe key => exact side_unsubscribe_congr same key

/-- The chunks that were handed to a subscription, in the order of delivery. -/
def heardBy (s : Subscription) (b : Bench) : List Bytes :=
  (b.deliveries.filter (·.subscription == s)).map (·.chunk)

/-- What a subscription has heard, and whether it is there, is seen from its device. -/
theorem seen_of_side (same : b.side endpoint = b'.side endpoint) {s : Subscription}
    (own : s.link.endpoint = endpoint) :
    b.heardBy s = b'.heardBy s
      ∧ (s ∈ b.scheduler.subscriptions ↔ s ∈ b'.scheduler.subscriptions) := by
  have here : s.on endpoint = true := beq_iff_eq.mpr own
  constructor
  · have heard (b : Bench) : b.heardBy s
        = ((b.side endpoint).deliveries.filter (·.subscription == s)).map (·.chunk) := by
      rw [heardBy, side, List.filter_filter]
      refine congrArg _ (List.filter_congr fun d _ => ?_)
      by_cases its : d.subscription = s
      · simp [its, here]
      · simp [its]
    rw [heard, heard, same]
  · have there (b : Bench) : s ∈ b.scheduler.subscriptions
        ↔ s ∈ (b.side endpoint).scheduler.subscriptions :=
      ⟨fun member => List.mem_filter.mpr ⟨member, here⟩,
        fun member => List.mem_of_mem_filter member⟩
    rw [there, there, same]

/-- Runs that look the same from a device at first look the same after every step. -/
theorem side_runSteps {steps steps' : List SchedulerStep}
    (alike : List.Forall₂ (SchedulerStep.Alike endpoint) steps steps')
    (ready : Ready endpoint b) (ready' : Ready endpoint b')
    (same : b.side endpoint = b'.side endpoint) :
    List.Forall₂ (fun answer answer' : StepAnswer Bench =>
        answer.after.side endpoint = answer'.after.side endpoint)
      (runSteps (fun step b => (Answer.ofAct takeStep step b).asStep) steps b)
      (runSteps (fun step b => (Answer.ofAct takeStep step b).asStep) steps' b') := by
  induction alike generalizing b b' with
  | nil => exact .nil
  | cons first _ ih =>
    have later := side_takeStep_congr first ready ready' same
    exact .cons later (ih (ready.takeStep first.mild.1) (ready'.takeStep first.mild.2) later)

/-- The faults that other devices raise on reading, and those that listeners raise, leave every
subscription of a device alone: after every step it has heard the same and is there in both runs or
in neither. Polling drops just the subscriptions whose own reading failed and does not end the
thread; and what a listener raises, whatever else it does, changes nothing in the scheduler. -/
theorem faults_isolated (interval : Numeral) (threadName : String)
    {steps steps' : List SchedulerStep}
    (alike : List.Forall₂ (SchedulerStep.Alike endpoint) steps steps') :
    List.Forall₂ (fun answer answer' : StepAnswer Bench =>
        ∀ s : Subscription, s.link.endpoint = endpoint →
          answer.after.heardBy s = answer'.after.heardBy s
            ∧ (s ∈ answer.after.scheduler.subscriptions
              ↔ s ∈ answer'.after.scheduler.subscriptions))
        (runScheduler (.stopped interval threadName) steps)
        (runScheduler (.stopped interval threadName) steps')
      ∧ (∀ b, Moment.Reached ⟨b, []⟩ → b.Mild →
        (∀ s ∈ b.scheduler.subscriptions, s ∉ b.settle.scheduler.subscriptions
            ↔ ∃ e, ⟨s, .error e⟩ ∈ b.settle.readings.drop b.readings.length)
          ∧ (b.scheduler.stopRequested = false →
            b.settle.scheduler.thread = b.scheduler.thread))
      ∧ ∀ (b : Bench) (s : Subscription) (r : Reaction),
        (b.react s r).scheduler = (b.react s { r with raise := none }).scheduler := by
  have ready : Ready endpoint (.make [] (.stopped interval threadName)) := by
    refine ⟨Moment.reached_make interval threadName, fun l there => ?_, List.not_mem_nil⟩
    exact absurd there List.not_mem_nil
  refine ⟨(side_runSteps alike ready ready rfl).imp fun answer answer' same s own => ?_, ?_, ?_⟩
  · exact seen_of_side same own
  · exact fun b reached mild => polling_drops reached mild
  · rintro b s ⟨keys, feed, stop, _ | f⟩
    · rfl
    · rfl

/-- Two listeners on devices of their own, the second of which may raise a fault when it is handed a
chunk; after that its device may fail. -/
def sideBySide (raise gone : Option Fault) : List SchedulerStep :=
  [.start, .subscribe "first" "/dev/a" (some "") [],
    .subscribe "second" "/dev/b" (some "") [⟨[], none, false, raise⟩],
    .device (.feed "/dev/a" [[1]]), .device (.feed "/dev/b" [[2]]), .device .pump,
    .device (.setFault "/dev/b" .read gone), .device (.feed "/dev/a" [[3], [4]]),
    .device (.feed "/dev/b" [[5]]), .device .pump]

/-- The first listener hears the same, whether the second one fails or not. -/
theorem faults_isolated_beside :
    let failing := sideBySide (some ⟨.value, "boom"⟩) (some ⟨.transport, "gone"⟩)
    List.Forall₂ (SchedulerStep.Alike "/dev/a") failing (sideBySide none none)
      ∧ List.Forall₂ (fun answer answer' : StepAnswer Bench =>
          answer.after.heardBy Moment.first = answer'.after.heardBy Moment.first
            ∧ (Moment.first ∈ answer.after.scheduler.subscriptions
              ↔ Moment.first ∈ answer'.after.scheduler.subscriptions))
        (runScheduler .usual failing) (runScheduler .usual (sideBySide none none))
      ∧ (Moment.afterSteps failing).heardBy Moment.first = [[1], [3], [4]]
      ∧ (Moment.afterSteps failing).scheduler.subscriptions = [Moment.first]
      ∧ (Moment.afterSteps (sideBySide none none)).scheduler.subscriptions
        = [Moment.first, Moment.second] := by
  intro failing
  have mild (raise : Option Fault) : ∀ r ∈ [Reaction.mk [] none false raise], r.Mild := by
    simp [Reaction.Mild]
  have alike : List.Forall₂ (SchedulerStep.Alike "/dev/a") failing (sideBySide none none) :=
    .cons (.same trivial) <| .cons (.same (by simp [SchedulerStep.Mild])) <|
    .cons (.listener (mild _) (mild _)) <| .cons (.same (by simp [SchedulerStep.Mild])) <|
    .cons (.same (by simp [SchedulerStep.Mild])) <| .cons (.same trivial) <|
    .cons (.fault (by decide) _ _) <| .cons (.same (by simp [SchedulerStep.Mild])) <|
    .cons (.same (by simp [SchedulerStep.Mild])) <| .cons (.same trivial) .nil
  refine ⟨alike, ?_, by decide +kernel, by decide +kernel, by decide +kernel⟩
  exact (faults_isolated _ _ alike).1.imp fun _ _ apart => apart Moment.first rfl

end Bench

end AcceptanceBench
