import AcceptanceBench.Proofs.Removal
import AcceptanceBench.Proofs.Serving

/-!
Subscriptions as handles, whatever several threads do at once. Subscribing is two steps, a test that
the thread is alive and the insertion, and so is stopping; anything may come between them. The ids
that a scheduler has given out are never given again, so a handle stands for the subscription that
it was returned for as long as that is there, and for nothing afterwards. What a scheduler holds
while it does not serve was inserted while it did not.
-/

namespace AcceptanceBench

open Relation (ReflTransGen)

namespace Scheduler

/-- Subscriptions may have ended. -/
structure Loses (s s' : Scheduler) : Prop where
  subscriptions : s'.subscriptions.Sublist s.subscriptions
  nextId : s'.nextId = s.nextId

/-- One more subscription, under the next id. -/
structure Gives (h : Subscription) (s s' : Scheduler) : Prop where
  subscriptions : s'.subscriptions = s.subscriptions ++ [h]
  id : h.id = s.nextId
  nextId : s'.nextId = s.nextId + 1

/-- The subscriptions have ids of their own, in the order in which they were made and all below the
next one. -/
structure Numbered (s : Scheduler) : Prop where
  increasing : (s.subscriptions.map (·.id)).Pairwise (· < ·)
  given : ∀ h ∈ s.subscriptions, h.id < s.nextId

/-- A subscription that was made: its id was given out, and no other subscription has it. -/
structure Made (h : Subscription) (s : Scheduler) : Prop where
  given : h.id < s.nextId
  own : ∀ other ∈ s.subscriptions, other.id = h.id → other = h

variable {h : Subscription} {s s' : Scheduler}

theorem gives_insert (link : Link) (sink : Sink) (name : String) (s : Scheduler) :
    Gives (s.insert link sink name).1 s (s.insert link sink name).2 :=
  ⟨rfl, rfl, rfl⟩

theorem loses_of_same (subscriptions : s'.subscriptions = s.subscriptions)
    (nextId : s'.nextId = s.nextId) : Loses s s' :=
  ⟨subscriptions ▸ .refl _, nextId⟩

theorem loses_remove (id : Nat) (s : Scheduler) : Loses s (s.remove id) :=
  ⟨List.filter_sublist, rfl⟩

theorem numbered_stopped (interval : Numeral) (threadName : String) :
    Numbered (stopped interval threadName) :=
  ⟨.nil, List.forall_mem_nil _⟩

theorem Loses.numbered (loses : Loses s s') (numbered : s.Numbered) : s'.Numbered := by
  refine ⟨numbered.increasing.sublist (loses.subscriptions.map _), fun h there => ?_⟩
  rw [loses.nextId]
  exact numbered.given h (loses.subscriptions.subset there)

theorem Gives.numbered (gives : Gives h s s') (numbered : s.Numbered) : s'.Numbered := by
  refine ⟨?_, fun other there => ?_⟩
  · rw [gives.subscriptions, List.map_append, List.pairwise_append]
    refine ⟨numbered.increasing, List.pairwise_singleton _ _, fun id there id' new => ?_⟩
    obtain ⟨other, member, rfl⟩ := List.mem_map.mp there
    obtain rfl := List.mem_singleton.mp new
    exact Nat.lt_of_lt_of_eq (numbered.given other member) gives.id.symm
  · rw [gives.subscriptions] at there
    rw [gives.nextId]
    rcases List.mem_append.mp there with old | new
    · exact Nat.lt_succ_of_lt (numbered.given other old)
    · rw [List.mem_singleton.mp new, gives.id]
      exact Nat.lt_succ_self _

theorem Gives.made (gives : Gives h s s') (numbered : s.Numbered) : s'.Made h := by
  refine ⟨?_, fun other there same => ?_⟩
  · rw [gives.nextId, gives.id]
    exact Nat.lt_succ_self _
  · rw [gives.subscriptions] at there
    rcases List.mem_append.mp there with old | new
    · have less := numbered.given other old
      rw [same, gives.id] at less
      exact absurd less (Nat.lt_irrefl _)
    · exact List.mem_singleton.mp new

theorem Loses.made (loses : Loses s s') (made : s.Made h) : s'.Made h :=
  ⟨loses.nextId ▸ made.given, fun other there => made.own other (loses.subscriptions.subset there)⟩

/-- A later subscription has a greater id. -/
theorem Made.lt {added : Subscription} (made : s.Made h) (gives : Gives added s s') :
    h.id < added.id :=
  gives.id ▸ made.given

theorem Made.after_gives {added : Subscription} (made : s.Made h) (gives : Gives added s s') :
    s'.Made h := by
  refine ⟨gives.nextId ▸ Nat.lt_succ_of_lt made.given, fun other there same => ?_⟩
  rw [gives.subscriptions] at there
  rcases List.mem_append.mp there with old | new
  · exact made.own other old same
  · obtain rfl := List.mem_singleton.mp new
    exact absurd same (Nat.ne_of_gt (made.lt gives))

/-- Ending a subscription that is there takes just that one away. -/
theorem Numbered.remove (numbered : s.Numbered) (there : h ∈ s.subscriptions) :
    ∃ before after, s.subscriptions = before ++ h :: after
      ∧ s.remove h.id = { s with subscriptions := before ++ after } := by
  obtain ⟨before, after, split⟩ := List.append_of_mem there
  have distinct := numbered.increasing
  rw [split, List.map_append, List.map_cons, List.pairwise_append, List.pairwise_cons] at distinct
  obtain ⟨-, ⟨above, -⟩, below⟩ := distinct
  have kept (other : Subscription) (there : other ∈ before ++ after) :
      (other.id != h.id) = true := by
    refine bne_iff_ne.mpr ?_
    rcases List.mem_append.mp there with there | there
    · exact Nat.ne_of_lt (below _ (List.mem_map_of_mem there) _ List.mem_cons_self)
    · exact Nat.ne_of_gt (above _ (List.mem_map_of_mem there))
  have others : s.subscriptions.filter (·.id != h.id) = before ++ after := by
    rw [split, List.filter_append, List.filter_cons_of_neg (by simp), ← List.filter_append,
      List.filter_eq_self.mpr kept]
  exact ⟨before, after, split, by rw [Scheduler.remove, others]⟩

/-- Ending a subscription that is not there does nothing. -/
theorem Made.remove_of_not_mem (made : s.Made h) (gone : h ∉ s.subscriptions) :
    s.remove h.id = s := by
  have others : s.subscriptions.filter (·.id != h.id) = s.subscriptions := by
    refine List.filter_eq_self.mpr fun other there => bne_iff_ne.mpr fun same => ?_
    rw [made.own other there same] at there
    exact gone there
  rw [Scheduler.remove, others]

end Scheduler

/-- A scheduler while several threads call it: how many calls of subscribe have found it running and
have not inserted yet, how many stops are between dropping what it holds and their end, and whether
its thread has seen that it shall end. `late` are the ids that were given out while it did not
serve. -/
structure Standing where
  scheduler : Scheduler
  admitted : Nat
  stops : Nat
  leaving : Bool
  late : List Nat
  deriving Repr, DecidableEq

namespace Standing

open Scheduler

/-- Whether the thread goes on: it is alive, was not asked to end, has not seen that it shall, and
no stop is under way. -/
def serves (st : Standing) : Bool :=
  st.scheduler.isRunning && !st.scheduler.stopRequested && !st.leaving && st.stops == 0

/-- The scheduler after a change of it alone. -/
def onScheduler (change : Scheduler → Scheduler) (st : Standing) : Standing :=
  { st with scheduler := change st.scheduler }

/-- The second step of subscribing, as it comes out whatever has happened since the first. -/
def insert (link : Link) (sink : Sink) (name : String) (st : Standing) : Standing :=
  { st with
    scheduler := (st.scheduler.insert link sink name).2
    admitted := st.admitted - 1
    late := if st.serves then st.late else st.scheduler.nextId :: st.late }

/-- The first step of stopping drops what is there. -/
def drop (st : Standing) : Standing :=
  { st with scheduler.subscriptions := [], stops := st.stops + 1 }

/-- The last step of a stop that succeeds. -/
def letGo (st : Standing) : Standing :=
  { st with scheduler.thread := none, stops := st.stops - 1 }

/-- A new thread takes the place of the one before. -/
def launch (st : Standing) : Standing :=
  { st with scheduler.thread := some .alive, leaving := false }

/-- A single step of any thread. Calls overlap in any way: where a step has a condition, that is
what the call itself has tested or done before. A stop that fails gives up; a reading that fails
removes as unsubscribing does. -/
inductive Deed : Standing → Standing → Prop
  | find {st : Standing} (running : st.scheduler.isRunning = true) :
      Deed st { st with admitted := st.admitted + 1 }
  | insert {st : Standing} (link : Link) (sink : Sink) (name : String) (found : st.admitted ≠ 0) :
      Deed st (st.insert link sink name)
  | remove {st : Standing} (id : Nat) : Deed st (st.onScheduler (·.remove id))
  | drop {st : Standing} : Deed st st.drop
  | request {st : Standing} (stopping : st.stops ≠ 0) :
      Deed st (st.onScheduler fun s => { s with stopRequested := true })
  | letGo {st : Standing} (stopping : st.stops ≠ 0) : Deed st st.letGo
  | giveUp {st : Standing} (stopping : st.stops ≠ 0) : Deed st { st with stops := st.stops - 1 }
  | clear {st : Standing} : Deed st (st.onScheduler fun s => { s with stopRequested := false })
  | launch {st : Standing} : Deed st st.launch
  | see {st : Standing} (asked : st.scheduler.stopRequested = true) :
      Deed st { st with leaving := true }
  | finish {st : Standing} (seen : st.leaving = true) :
      Deed st (st.onScheduler fun s => { s with thread := s.thread.map fun _ => .ended })

/-- A handle is returned to a call that has found the scheduler running. -/
inductive Hands (h : Subscription) : Standing → Standing → Prop
  | insert {st : Standing} {link : Link} {sink : Sink} {name : String} (found : st.admitted ≠ 0)
      (given : (st.scheduler.insert link sink name).1 = h) : Hands h st (st.insert link sink name)

/-- From one standing to another by single steps. -/
abbrev Life : Standing → Standing → Prop := ReflTransGen Deed

/-- A scheduler that was never started and that nobody is calling. -/
def initial (interval : Numeral) (threadName : String) : Standing :=
  ⟨.stopped interval threadName, 0, 0, false, []⟩

/-- A standing that a scheduler can come to, whoever calls it and whenever. -/
def Lived (st : Standing) : Prop :=
  ∃ interval threadName, Life (initial interval threadName) st

/-- Nothing is added, and what does not serve any more holds nothing or did not serve before. -/
structure Sheds (st st' : Standing) : Prop where
  loses : Loses st.scheduler st'.scheduler
  late : st'.late = st.late
  idle : st'.serves = false → st'.scheduler.subscriptions = [] ∨ st.serves = false

variable {st st' : Standing} {h : Subscription}

theorem Lived.life (lived : Lived st) (life : Life st st') : Lived st' := by
  obtain ⟨interval, threadName, before⟩ := lived
  exact ⟨interval, threadName, before.trans life⟩

theorem serves_of_stops (stopping : st.stops ≠ 0) : st.serves = false := by
  simp [serves, stopping]

theorem Hands.deed (hands : Hands h st st') : Deed st st' := by
  cases hands with
  | insert found given => exact .insert _ _ _ found

theorem Hands.gives (hands : Hands h st st') : Gives h st.scheduler st'.scheduler := by
  cases hands with
  | insert found given =>
    subst given
    exact gives_insert _ _ _ _

theorem Hands.serves (hands : Hands h st st') : st'.serves = st.serves := by
  cases hands with
  | insert found given => rfl

theorem Hands.late_of_idle (hands : Hands h st st') (idle : st'.serves = false) :
    st'.late = h.id :: st.late := by
  have before := hands.serves.symm.trans idle
  cases hands with
  | insert found given =>
    subst given
    rw [Standing.insert, before, if_neg Bool.false_ne_true]
    rfl

/-- A single step hands out a new subscription, or nothing is added. -/
theorem Deed.cases (deed : Deed st st') : Sheds st st' ∨ ∃ h, Hands h st st' := by
  cases deed with
  | find running => exact Or.inl ⟨loses_of_same rfl rfl, rfl, Or.inr⟩
  | insert link sink name found => exact Or.inr ⟨_, .insert found rfl⟩
  | remove id => exact Or.inl ⟨loses_remove id _, rfl, Or.inr⟩
  | drop => exact Or.inl ⟨⟨List.nil_sublist _, rfl⟩, rfl, fun _ => Or.inl rfl⟩
  | request stopping =>
    exact Or.inl ⟨loses_of_same rfl rfl, rfl, fun _ => Or.inr (serves_of_stops stopping)⟩
  | letGo stopping =>
    exact Or.inl ⟨loses_of_same rfl rfl, rfl, fun _ => Or.inr (serves_of_stops stopping)⟩
  | giveUp stopping =>
    exact Or.inl ⟨loses_of_same rfl rfl, rfl, fun _ => Or.inr (serves_of_stops stopping)⟩
  | clear =>
    refine Or.inl ⟨loses_of_same rfl rfl, rfl, fun idle => Or.inr ?_⟩
    simp only [serves, onScheduler, isRunning] at idle ⊢
    grind
  | launch =>
    refine Or.inl ⟨loses_of_same rfl rfl, rfl, fun idle => Or.inr ?_⟩
    simp only [serves, Standing.launch, isRunning] at idle ⊢
    grind
  | see asked =>
    refine Or.inl ⟨loses_of_same rfl rfl, rfl, fun _ => Or.inr ?_⟩
    simp [serves, asked]
  | finish seen =>
    refine Or.inl ⟨loses_of_same rfl rfl, rfl, fun _ => Or.inr ?_⟩
    simp [serves, seen]

theorem Lived.numbered (lived : Lived st) : st.scheduler.Numbered := by
  obtain ⟨interval, threadName, life⟩ := lived
  induction life with
  | refl => exact numbered_stopped interval threadName
  | tail _ deed ih =>
    rcases deed.cases with sheds | ⟨h, hands⟩
    · exact sheds.loses.numbered ih
    · exact hands.gives.numbered ih

theorem Life.made (life : Life st st') (made : st.scheduler.Made h) : st'.scheduler.Made h := by
  induction life with
  | refl => exact made
  | tail _ deed ih =>
    rcases deed.cases with sheds | ⟨added, hands⟩
    · exact sheds.loses.made ih
    · exact ih.after_gives hands.gives

/-- A subscription that has ended is not there again. -/
theorem Life.gone (life : Life st st') (made : st.scheduler.Made h)
    (gone : h ∉ st.scheduler.subscriptions) : h ∉ st'.scheduler.subscriptions := by
  induction life with
  | refl => exact gone
  | tail before deed ih =>
    rcases deed.cases with sheds | ⟨added, hands⟩
    · exact fun there => ih (sheds.loses.subscriptions.subset there)
    · intro there
      rw [hands.gives.subscriptions] at there
      rcases List.mem_append.mp there with old | new
      · exact ih old
      · have less := (Life.made before made).lt hands.gives
        rw [List.mem_singleton.mp new] at less
        exact Nat.lt_irrefl _ less

/-- What a scheduler holds while it does not serve was inserted while it did not. -/
theorem Lived.late_of_idle (lived : Lived st) (idle : st.serves = false) :
    ∀ h ∈ st.scheduler.subscriptions, h.id ∈ st.late := by
  obtain ⟨interval, threadName, life⟩ := lived
  induction life with
  | refl => exact List.forall_mem_nil _
  | tail _ deed ih =>
    intro h there
    rcases deed.cases with sheds | ⟨added, hands⟩
    · rw [sheds.late]
      rcases sheds.idle idle with dropped | before
      · rw [dropped] at there
        exact absurd there List.not_mem_nil
      · exact ih before h (sheds.loses.subscriptions.subset there)
    · rw [hands.late_of_idle idle]
      rw [hands.gives.subscriptions] at there
      rcases List.mem_append.mp there with old | new
      · exact List.mem_cons_of_mem _ (ih (hands.serves.symm.trans idle) h old)
      · rw [List.mem_singleton.mp new]
        exact List.mem_cons_self

/-- What a handle is good for at some standing: its id is not given again, it ends its own
subscription if that is still there, and from then on it ends none. -/
structure Exact (h : Subscription) (st : Standing) : Prop where
  given : h.id < st.scheduler.nextId
  own : ∀ other ∈ st.scheduler.subscriptions, other.id = h.id → other = h
  fresh : ∀ later after h', Life st later → Hands h' later after → h.id < h'.id
  ends : h ∈ st.scheduler.subscriptions → ∃ before after,
    st.scheduler.subscriptions = before ++ h :: after
      ∧ st.scheduler.remove h.id = { st.scheduler with subscriptions := before ++ after }
  stale : h ∉ st.scheduler.subscriptions → ∀ later, Life st later →
    h ∉ later.scheduler.subscriptions ∧ later.scheduler.remove h.id = later.scheduler

/-- A stop that nobody comes between leaves nothing, whether it succeeds or not, unless there is no
thread; then it does nothing, and what there is was inserted late. -/
structure Stops (late : List Nat) (b : Bench) : Prop where
  idle : b.scheduler.thread = none → (∀ h ∈ b.scheduler.subscriptions, h.id ∈ late)
    ∧ b.stopFromThread = b ∧ ∀ timeout, b.stop timeout = (.ok (), b)
  stop : b.scheduler.thread ≠ none →
    ∀ timeout, (b.stop timeout).2.scheduler.subscriptions = []
  stopFromThread : b.scheduler.thread ≠ none → b.stopFromThread.scheduler.subscriptions = []

theorem Lived.exact (lived : Lived st) (made : st.scheduler.Made h) : Exact h st := by
  refine ⟨made.given, made.own, fun later after h' life hands => ?_, lived.numbered.remove,
    fun gone later life => ?_⟩
  · exact (life.made made).lt hands.gives
  · have gone := life.gone made gone
    exact ⟨gone, (life.made made).remove_of_not_mem gone⟩

theorem serves_of_idle (idle : st.scheduler.thread = none) : st.serves = false := by
  simp [serves, isRunning, idle]

theorem Lived.stops (lived : Lived st) {b : Bench} (same : b.scheduler = st.scheduler) :
    Stops st.late b := by
  refine ⟨fun idle => ⟨?_, ?_, fun timeout => ?_⟩, fun started timeout => ?_,
    Bench.stopFromThread_dropped⟩
  · rw [same] at idle ⊢
    exact lived.late_of_idle (serves_of_idle idle)
  · rw [Bench.stopFromThread, idle]
  · rw [Bench.stop, idle]
  · exact Moment.stop_dropped timeout started

/-- The subscription that is made then. -/
def old : Subscription := ⟨1, "/dev/a", .plain "/dev/a" none none, .listener 0⟩

/-- A scheduler can get from one form to another, whoever else is in the middle of a call. -/
def Leads (s s' : Scheduler) : Prop :=
  ∀ st : Standing, st.scheduler = s → ∃ st', Life st st' ∧ st'.scheduler = s'

variable {s s' s₁ s₂ s₃ : Scheduler}

theorem Leads.refl (s : Scheduler) : Leads s s :=
  fun st same => ⟨st, .refl, same⟩

theorem Leads.trans (h₁ : Leads s₁ s₂) (h₂ : Leads s₂ s₃) : Leads s₁ s₃ := by
  intro st same
  obtain ⟨st', before, same⟩ := h₁ st same
  obtain ⟨st'', after, same⟩ := h₂ st' same
  exact ⟨st'', before.trans after, same⟩

theorem leads_remove (id : Nat) (s : Scheduler) : Leads s (s.remove id) := by
  rintro st rfl
  exact ⟨_, .single (.remove id), rfl⟩

theorem leads_finish (s : Scheduler) (asked : s.stopRequested = true) :
    Leads s { s with thread := s.thread.map fun _ => .ended } := by
  rintro st rfl
  exact ⟨_, .tail (.single (.see asked)) (.finish rfl), rfl⟩

theorem leads_launch (s : Scheduler) :
    Leads s { s with stopRequested := false, thread := some .alive } := by
  rintro st rfl
  exact ⟨_, .tail (.single .clear) .launch, rfl⟩

theorem leads_requestStop (s : Scheduler) :
    Leads s { s with subscriptions := [], stopRequested := true } := by
  rintro st rfl
  have asked := ReflTransGen.tail (.single .drop) (Deed.request (Nat.succ_ne_zero st.stops))
  exact ⟨_, asked.tail (.giveUp (Nat.succ_ne_zero st.stops)), rfl⟩

theorem leads_letGo (s : Scheduler) : Leads s { s with subscriptions := [], thread := none } := by
  rintro st rfl
  exact ⟨_, .tail (.single .drop) (.letGo (Nat.succ_ne_zero st.stops)), rfl⟩

theorem leads_subscribe {link : Link} {sink : Sink} {name : String}
    (accepted : s.subscribe link sink name = .ok (h, s')) : Leads s s' := by
  rintro st rfl
  unfold Scheduler.subscribe at accepted
  split at accepted
  · next running =>
    cases accepted
    exact ⟨_, .tail (.single (.find running)) (.insert link sink name (Nat.succ_ne_zero _)), rfl⟩
  · cases accepted

theorem requestStop_scheduler (b : Bench) : b.requestStop.scheduler
    = { b.scheduler with subscriptions := [], stopRequested := true } := by
  unfold Bench.requestStop
  dsimp only
  split
  · rfl
  · rfl

end Standing

namespace Moment

open Standing

variable {m m' : Moment}

theorem Turn.leads (turn : Turn m m') : Leads m.bench.scheduler m'.bench.scheduler := by
  cases turn with
  | beginRound alive going => exact .refl _
  | @fail b later s rest e fetched =>
    obtain ⟨-, -, same, -⟩ := Bench.fetch_fields fetched
    rw [← same]
    exact leads_remove s.id later.scheduler
  | pass fetched =>
    obtain ⟨-, -, same, -⟩ := Bench.fetch_fields fetched
    rw [← same]
    exact .refl _
  | @hand b later s rest c cs fetched =>
    obtain ⟨-, -, same, -⟩ := Bench.fetch_fields fetched
    obtain ⟨-, handed, -⟩ := Bench.hand_fields later s (c :: cs)
    rw [← same, ← handed]
    exact .refl _
  | @unsubscribe b rest key =>
    unfold Bench.unsubscribe
    cases b.handles.get? key with
    | none => exact .refl _
    | some id => exact leads_remove id b.scheduler
  | feed endpoint chunks => exact .refl _
  | @stop b rest =>
    unfold Bench.stopFromThread
    cases b.scheduler.thread with
    | none => exact .refl _
    | some t =>
      have asked := leads_requestStop b.scheduler
      rw [← requestStop_scheduler] at asked
      have letGo := leads_letGo b.requestStop.scheduler
      rw [← (Bench.requestStop_spec b).2.2.1] at letGo
      exact asked.trans letGo
  | complain n => exact .refl _
  | @finish b alive asked =>
    have ended := leads_finish b.scheduler asked
    rw [alive] at ended
    exact ended

theorem Stir.leads (stir : Stir m m') : Leads m.bench.scheduler m'.bench.scheduler := by
  cases stir with
  | turn turn => exact turn.leads
  | device act still =>
    rw [Bench.perform_flags _ still]
    exact .refl _
  | launch idle => exact leads_launch _
  | @requestStop b =>
    rw [requestStop_scheduler]
    exact leads_requestStop b.scheduler

theorem Next.leads (next : Next m m') : Leads m.bench.scheduler m'.bench.scheduler := by
  cases next with
  | tick tick =>
    cases tick with
    | stir stir => exact stir.leads
    | @release asked b since =>
      have letGo := leads_letGo b.scheduler
      rw [← dropped_since since] at letGo
      exact letGo
  | @listen b key endpoint name reactions =>
    rcases outcome : b.listen key endpoint name reactions with ⟨e | h, later⟩
    · rw [Bench.listen_refused outcome]
      exact .refl _
    · obtain ⟨link, sink, name, accepted⟩ := Bench.subscribe_of_listen outcome
      exact leads_subscribe accepted

theorem Course.leads (course : Course m m') : Leads m.bench.scheduler m'.bench.scheduler := by
  induction course with
  | refl => exact .refl _
  | tail _ next ih => exact ih.trans next.leads

/-- What calls come to that are made one at a time is a standing of the scheduler. There they have
left no subscription without a thread. -/
theorem Reached.stands (reached : Reached m) :
    (∃ st, Lived st ∧ st.scheduler = m.bench.scheduler)
      ∧ (m.bench.scheduler.thread = none → m.bench.scheduler.subscriptions = []) := by
  refine ⟨?_, reached.numbered.letGo⟩
  obtain ⟨interval, threadName, course⟩ := reached
  obtain ⟨st, life, same⟩ := course.leads (initial interval threadName) rfl
  exact ⟨st, ⟨interval, threadName, life⟩, same⟩

end Moment

end AcceptanceBench
