import AcceptanceBench.Proofs.WaitPreserves
import AcceptanceBench.Step.Registry
import Mathlib.Data.List.Forall2

/-!
Two waits that go the same way. A wait looks at its surroundings only through the buffer, so in two
surroundings that settle and answer events alike, and whose buffers are equal all along, it calls
its predicate on the same data, takes the same time and comes to the same result. A wait on a
channel does so in two states whose registries are alike.
-/

namespace AcceptanceBench

variable {σ σ' ε ρ ρ' : Type}

/-- Surroundings that stay related when they settle and when one of the events happens, whose
answers are then alike, and whose buffers are equal. -/
structure Surroundings.Mirrors (around : Surroundings σ ε ρ) (around' : Surroundings σ' ε ρ')
    (events : ε → Prop) (related : σ → σ' → Prop) (alike : ρ → ρ' → Prop) : Prop where
  buffer : ∀ s s', related s s' → around'.buffer s' = around.buffer s
  settle : ∀ s s', related s s' → related (around.settle s) (around'.settle s')
  answer : ∀ e s s', events e → related s s' → alike (around.happen e s).1 (around'.happen e s').1
  happen : ∀ e s s', events e → related s s' → related (around.happen e s).2 (around'.happen e s').2

/-- Two waits at the same point. -/
structure Watch.Mirrors (related : σ → σ' → Prop) (alike : ρ → ρ' → Prop) (w : Watch σ ρ)
    (w' : Watch σ' ρ') : Prop where
  now : w'.now = w.now
  detail : w'.detail = w.detail
  seen : w'.seen = w.seen
  state : related w.state w'.state
  happened : List.Forall₂ alike w.happened w'.happened

/-- Two waits that have ended alike. -/
structure Waited.Mirrors (related : σ → σ' → Prop) (alike : ρ → ρ' → Prop) (w : Waited σ ρ)
    (w' : Waited σ' ρ') : Prop where
  result : w'.result = w.result
  notices : w'.notices = w.notices
  watch : w.watch.Mirrors related alike w'.watch

namespace Wait

variable {around : Surroundings σ ε ρ} {around' : Surroundings σ' ε ρ'} {valid : ε → Prop}
  {related : σ → σ' → Prop} {alike : ρ → ρ' → Prop} {w : Watch σ ρ} {w' : Watch σ' ρ'}
  {wait : Wait}

theorem mirrors_check (mirrors : around.Mirrors around' valid related alike)
    (same : w.Mirrors related alike w') {result : Option (Except Error Data)} {later : Watch σ ρ}
    (called : wait.check around w = (result, later)) :
    ∃ later', wait.check around' w' = (result, later') ∧ later.Mirrors related alike later' := by
  have added (data : Data) : (w.called data).Mirrors related alike (w'.called data) :=
    ⟨same.now, same.detail, congrArg (· ++ [data]) same.seen, same.state, same.happened⟩
  unfold check at called ⊢
  dsimp only at called ⊢
  rw [mirrors.buffer _ _ same.state, same.seen]
  split at called
  · cases called
    exact ⟨_, rfl, added _⟩
  · cases called
    exact ⟨_, rfl, added _⟩
  · cases called
    refine ⟨_, rfl, ?_⟩
    unfold Watch.remember
    split
    · exact added _
    · exact ⟨same.now, rfl, (added _).seen, same.state, same.happened⟩

theorem mirrors_settle (mirrors : around.Mirrors around' valid related alike) {failed : Watch σ ρ}
    {failed' : Watch σ' ρ'} (before : related w.state w'.state)
    (same : failed.Mirrors related alike failed') :
    Watch.Mirrors related alike { failed with state := around.settle w.state }
      { failed' with state := around'.settle w'.state } :=
  ⟨same.now, same.detail, same.seen, mirrors.settle _ _ before, same.happened⟩

theorem notified_eq (mirrors : around.Mirrors around' valid related alike) {s t : σ} {s' t' : σ'}
    (before : related s s') (after : related t t') :
    notified around' s' t' = notified around s t := by
  unfold notified
  rw [mirrors.buffer _ _ before, mirrors.buffer _ _ after]

theorem mirrors_take (mirrors : around.Mirrors around' valid related alike) {e : Scheduled ε}
    (valid : valid e.event) (same : w.Mirrors related alike w') :
    (take around e w).Mirrors related alike (take around' e w') := by
  have answered := mirrors.answer e.event _ _ valid same.state
  have happened := mirrors.happen e.event _ _ valid same.state
  refine ⟨?_, same.detail, same.seen, mirrors.settle _ _ happened, ?_⟩
  · unfold take
    dsimp only
    rw [same.now]
  · exact List.rel_append same.happened (.cons answered .nil)

theorem mirrors_sleep (mirrors : around.Mirrors around' valid related alike) {deadline : Rat}
    {events rest : List (Scheduled ε)} (all : ∀ e ∈ events, valid e.event)
    (same : w.Mirrors related alike w') {woke : Bool} {woken : Watch σ ρ}
    (slept : sleep around deadline events w = (woke, rest, woken)) :
    (∀ e ∈ rest, valid e.event) ∧ ∃ woken', sleep around' deadline events w' = (woke, rest, woken')
      ∧ woken.Mirrors related alike woken' := by
  have late {w : Watch σ ρ} {w' : Watch σ' ρ'} (same : w.Mirrors related alike w') :
      Watch.Mirrors related alike { w with now := deadline } { w' with now := deadline } :=
    ⟨rfl, same.detail, same.seen, same.state, same.happened⟩
  induction events generalizing w w' with
  | nil =>
    cases slept
    exact ⟨all, _, rfl, late same⟩
  | cons e later ih =>
    have taken := mirrors_take mirrors (all e List.mem_cons_self) same
    have others : ∀ e ∈ later, valid e.event := fun e there => all e (List.mem_cons_of_mem _ there)
    unfold sleep at slept ⊢
    dsimp only at slept ⊢
    rw [notified_eq mirrors same.state taken.state]
    split at slept
    · next due =>
      rw [if_pos due]
      split at slept
      · next woke =>
        rw [if_pos woke]
        cases slept
        exact ⟨others, _, rfl, taken⟩
      · next quiet =>
        rw [if_neg quiet]
        exact ih others taken slept
    · next notDue =>
      rw [if_neg notDue]
      cases slept
      exact ⟨List.forall_mem_nil _, _, rfl, late same⟩

theorem mirrors_expire (mirrors : around.Mirrors around' valid related alike)
    (same : w.Mirrors related alike w') :
    (wait.expire around w).Mirrors related alike (wait.expire around' w') := by
  unfold expire
  rw [same.detail, same.now, mirrors.buffer _ _ same.state]
  exact ⟨rfl, rfl, same⟩

theorem mirrors_checkLast (mirrors : around.Mirrors around' valid related alike)
    (same : w.Mirrors related alike w') :
    (wait.checkLast around w).Mirrors related alike (wait.checkLast around' w') := by
  unfold checkLast
  split
  · next result later called =>
    obtain ⟨later', called', after⟩ := mirrors_check mirrors same called
    rw [called']
    exact ⟨rfl, rfl, after⟩
  · next later called =>
    obtain ⟨later', called', after⟩ := mirrors_check mirrors same called
    rw [called']
    exact mirrors_expire mirrors after

theorem mirrors_proceed [Clock] (mirrors : around.Mirrors around' valid related alike) (wait : Wait)
    (events : List (Scheduled ε)) (w : Watch σ ρ) : (∀ e ∈ events, valid e.event) →
    ∀ w', w.Mirrors related alike w' →
      (wait.proceed around events w).Mirrors related alike (wait.proceed around' events w') := by
  -- The first wait leads, and the second one takes each of its turns in the same way.
  fun_induction proceed wait around events w with
  | case1 events w result checked called =>
    intro all w' same
    obtain ⟨later', called', after⟩ := mirrors_check mirrors same called
    rw [proceed_eq, called']
    exact ⟨rfl, rfl, after⟩
  | case2 events w failed called late =>
    intro all w' same
    obtain ⟨failed', called', after⟩ := mirrors_check mirrors same called
    rw [proceed_eq, called']
    dsimp only
    rw [same.now, if_pos late]
    exact mirrors_expire mirrors after
  | case3 events w failed called going tooLong =>
    intro all w' same
    obtain ⟨failed', called', after⟩ := mirrors_check mirrors same called
    rw [proceed_eq, called']
    dsimp only
    rw [same.now, if_neg going, if_pos tooLong]
    exact ⟨rfl, rfl, after⟩
  | case4 events w failed called going allowed settled noted ih =>
    intro all w' same
    obtain ⟨failed', called', after⟩ := mirrors_check mirrors same called
    have level := mirrors_settle mirrors same.state after
    rw [proceed_eq wait around', called']
    dsimp only
    rw [same.now, if_neg going, if_neg allowed, notified_eq mirrors same.state level.state,
      if_pos noted]
    exact ih all _ level
  | case5 events w failed called going allowed settled quiet rest woken slept ih =>
    intro all w' same
    obtain ⟨failed', called', after⟩ := mirrors_check mirrors same called
    have level := mirrors_settle mirrors same.state after
    obtain ⟨others, woken', slept', same'⟩ := mirrors_sleep mirrors all level slept
    rw [proceed_eq wait around', called']
    dsimp only
    rw [same.now, if_neg going, if_neg allowed, notified_eq mirrors same.state level.state,
      if_neg quiet, slept']
    exact ih others _ same'
  | case6 events w failed called going allowed settled quiet rest woken slept =>
    intro all w' same
    obtain ⟨failed', called', after⟩ := mirrors_check mirrors same called
    have level := mirrors_settle mirrors same.state after
    obtain ⟨-, woken', slept', same'⟩ := mirrors_sleep mirrors all level slept
    rw [proceed_eq wait around', called']
    dsimp only
    rw [same.now, if_neg going, if_neg allowed, notified_eq mirrors same.state level.state,
      if_neg quiet, slept']
    exact mirrors_checkLast mirrors same'

/-- A wait in surroundings that mirror others ends as the wait in those. -/
theorem mirrors_run [Clock] (mirrors : around.Mirrors around' valid related alike) (wait : Wait)
    {events : List (Scheduled ε)} (all : ∀ e ∈ events, valid e.event) {s : σ} {s' : σ'}
    (same : related s s') :
    (wait.run around events s).Mirrors related alike (wait.run around' events s') := by
  have begins : (Watch.start s : Watch σ ρ).Mirrors related alike (.start s') :=
    ⟨rfl, rfl, rfl, same, .nil⟩
  unfold run
  split
  · exact ⟨rfl, rfl, begins⟩
  · refine mirrors_proceed mirrors wait _ _ (fun e there => ?_) _ begins
    exact all e (List.mem_mergeSort.mp there)

end Wait

/-! ### Waits on channels -/

/-- Two waits on channels that tell the same, with events that are alike. -/
structure Waiting.Mirrors (alike : Answer σ → Answer σ' → Prop) (w : Waiting σ)
    (w' : Waiting σ') : Prop where
  elapsed : w'.elapsed = w.elapsed
  seen : w'.seen = w.seen
  events : List.Forall₂ alike w.events w'.events

/-- How two states are seen from a wait on a channel: a channel that is open in one of them is open
in the other, with its buffer in another place, where it holds the same. -/
structure Registry.Mirrors (place : Nat → Nat) (g g' : Registry) : Prop where
  active : ∀ name, (g.active name).map (place ∘ Channel.buffer)
    = (g'.active name).map Channel.buffer
  buffer : ∀ index, g'.bench.buffer (place index) = g.bench.buffer index

/-- Two kinds of states in which a wait on a channel goes the same way: they stay related when their
benches settle, when notices are logged, and when an event happens. -/
structure ChannelMirrors (registry : σ → Registry) (put : Registry → σ → σ)
    (perform : ε → σ → Except Error Reply × σ) (registry' : σ' → Registry)
    (put' : Registry → σ' → σ') (perform' : ε → σ' → Except Error Reply × σ') (place : Nat → Nat)
    (valid : ε → Prop) (related : σ → σ' → Prop) (alike : Answer σ → Answer σ' → Prop) : Prop where
  registries : ∀ s s', related s s' → (registry s).Mirrors place (registry' s')
  settles : ∀ s s', related s s' →
    related (put { registry s with bench := (registry s).bench.settle } s)
      (put' { registry' s' with bench := (registry' s').bench.settle } s')
  notes : ∀ (notices : List Notice) s s', related s s' → related
    (put { registry s with bench := notices.foldl (fun b n => b.note n) (registry s).bench } s)
    (put' { registry' s' with bench := notices.foldl (fun b n => b.note n) (registry' s').bench }
      s')
  acts : ∀ e s s', valid e → related s s' →
    alike (.ofAct perform e s) (.ofAct perform' e s') ∧ related (perform e s).2 (perform' e s').2

section Channels

variable {registry : σ → Registry} {put : Registry → σ → σ}
  {perform : ε → σ → Except Error Reply × σ} {registry' : σ' → Registry} {put' : Registry → σ' → σ'}
  {perform' : ε → σ' → Except Error Reply × σ'} {place : Nat → Nat} {valid : ε → Prop}
  {related : σ → σ' → Prop} {alike : Answer σ → Answer σ' → Prop}

/-- A wait on a channel ends alike in two related states. -/
theorem mirrors_waitOnChannel [Clock]
    (mirrors :
      ChannelMirrors registry put perform registry' put' perform' place valid related alike)
    (registry_put : ∀ g s, registry (put g s) = g) (registry_put' : ∀ g s, registry' (put' g s) = g)
    (predicate : Except Error Predicate) (asked : Option ChannelWait)
    {events : List (Scheduled ε)} (all : ∀ e ∈ events, valid e.event) {s : σ} {s' : σ'}
    (same : related s s') :
    let answer := waitOnChannel registry put registry_put perform predicate asked events s
    let answer' := waitOnChannel registry' put' registry_put' perform' predicate asked events s'
    answer'.result = answer.result ∧ related answer.after answer'.after
      ∧ Option.Rel (Waiting.Mirrors alike) answer.waiting answer'.waiting := by
  have refused : Option.Rel (Waiting.Mirrors alike) (some (.none : Waiting σ)) (some .none) :=
    .some ⟨rfl, rfl, .nil⟩
  unfold waitOnChannel
  dsimp only
  split
  · exact ⟨rfl, same, refused⟩
  · exact ⟨rfl, same, refused⟩
  · next predicate asked =>
    have level := mirrors.registries s s' same
    have active := level.active asked.name
    cases found : (registry s).active asked.name with
    | error e =>
      cases found' : (registry' s').active asked.name with
      | ok c' =>
        rw [found, found'] at active
        cases active
      | error e' =>
        rw [found, found'] at active
        cases active
        exact ⟨rfl, same, refused⟩
    | ok c =>
      cases found' : (registry' s').active asked.name with
      | error e' =>
        rw [found, found'] at active
        cases active
      | ok c' =>
        rw [found, found'] at active
        have moved : c'.buffer = place c.buffer := (Except.ok.inj active).symm
        dsimp only
        rw [moved, level.buffer]
        generalize around : Surroundings.ofBench _ _ _ c.buffer _ = first
        generalize around' : Surroundings.ofBench _ _ _ (place c.buffer) _ = second
        have mirrored : first.Mirrors second valid related alike := by
          subst around around'
          refine ⟨fun s s' same => (mirrors.registries s s' same).buffer _, mirrors.settles, ?_, ?_⟩
          · intro e s s' valid same
            exact (mirrors.acts e s s' valid same).1
          · intro e s s' valid same
            exact (mirrors.acts e s s' valid same).2
        have ended := Wait.mirrors_run mirrored
          ⟨((registry s).bench.buffer c.buffer).name, asked.timeout, predicate⟩ all same
        refine ⟨by rw [ended.result], ?_, .some ⟨ended.watch.now, ended.watch.seen, ?_⟩⟩
        · rw [ended.notices]
          exact mirrors.notes _ _ _ ended.watch.state
        · exact ended.watch.happened

end Channels

end AcceptanceBench
