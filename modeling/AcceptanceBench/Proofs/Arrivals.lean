import AcceptanceBench.Proofs.Moment
import AcceptanceBench.Proofs.WaitError
import AcceptanceBench.Step.Registry

/-!
A wait on a channel as one on its buffer alone. Where all that happens around a wait is that chunks
are delivered, the wait goes as on a buffer to which they are appended when it wakes up, so it ends
on one of the occasions that these arrivals give.
-/

namespace AcceptanceBench

/-! ### Buffers that only grow -/

/-- The buffer has received some chunks, and was notified of each. -/
def Buffer.Filled (b b' : Buffer) : Prop :=
  ∃ chunks : List Bytes, b' = chunks.foldl Buffer.append b

namespace Buffer.Filled

variable {b b' b₁ b₂ b₃ : Buffer}

theorem refl (b : Buffer) : b.Filled b := ⟨[], rfl⟩

theorem append (b : Buffer) (chunk : Bytes) : b.Filled (b.append chunk) := ⟨[chunk], rfl⟩

theorem trans (h₁ : b₁.Filled b₂) (h₂ : b₂.Filled b₃) : b₁.Filled b₃ := by
  obtain ⟨early, rfl⟩ := h₁
  obtain ⟨late, rfl⟩ := h₂
  exact ⟨early ++ late, (List.foldl_append ..).symm⟩

theorem foldl_append (chunks : List Bytes) (b : Buffer) : chunks.foldl Buffer.append b
    = { b with data := b.data ++ chunks.flatten, signals := b.signals + chunks.length } := by
  induction chunks generalizing b with
  | nil => simp
  | cons chunk rest ih =>
    rw [List.foldl_cons, ih]
    simp [Buffer.append, Nat.add_assoc, Nat.add_comm 1]

theorem data (filled : b.Filled b') : ∃ gained, b'.data = b.data ++ gained := by
  obtain ⟨chunks, rfl⟩ := filled
  exact ⟨chunks.flatten, by rw [foldl_append]⟩

/-- Without a signal nothing has come. -/
theorem eq_of_signals (filled : b.Filled b') (silent : b'.signals = b.signals) : b' = b := by
  obtain ⟨chunks, rfl⟩ := filled
  rw [foldl_append] at silent
  have none : chunks = [] := List.length_eq_zero_iff.mp (Nat.left_eq_add.mp silent.symm)
  rw [none]
  rfl

end Buffer.Filled

/-- Surroundings in which all that happens to the buffer is that chunks are delivered. -/
structure Surroundings.Delivers {σ ε ρ : Type} (around : Surroundings σ ε ρ) : Prop where
  settle : ∀ s, (around.buffer s).Filled (around.buffer (around.settle s))
  happen : ∀ e s, (around.buffer s).Filled (around.buffer (around.happen e s).2)

/-- Chunks come one after another, from some time on. -/
structure Arrivals (since : Rat) (arrivals : List (Scheduled BufferAct)) : Prop where
  sorted : arrivals.Pairwise fun a b => a.time ≤ b.time
  since : ∀ a ∈ arrivals, since ≤ a.time
  chunks : ∀ a ∈ arrivals, ∃ chunk, a.event = .append (.bytes chunk)

theorem Arrivals.nil (since : Rat) : Arrivals since [] :=
  ⟨.nil, List.forall_mem_nil _, List.forall_mem_nil _⟩

theorem Arrivals.cons {since time : Rat} {rest : List (Scheduled BufferAct)} (later : since ≤ time)
    (chunk : Bytes) (arrivals : Arrivals time rest) :
    Arrivals since (⟨time, .append (.bytes chunk)⟩ :: rest) := by
  refine ⟨List.pairwise_cons.mpr ⟨arrivals.since, arrivals.sorted⟩, fun a there => ?_,
    fun a there => ?_⟩
  · rcases List.mem_cons.mp there with rfl | there
    · exact later
    · exact later.trans (arrivals.since a there)
  · rcases List.mem_cons.mp there with rfl | there
    · exact ⟨chunk, rfl⟩
    · exact arrivals.chunks a there

theorem Arrivals.schedule {since : Rat} {arrivals : List (Scheduled BufferAct)}
    (inOrder : Arrivals since arrivals) : schedule arrivals = arrivals :=
  List.mergeSort_of_pairwise (inOrder.sorted.imp decide_eq_true)

/-! ### The wait on the buffer alone -/

variable {σ ε ρ : Type} {around : Surroundings σ ε ρ} {w : Watch σ ρ}

/-- A wait on a buffer alone is at the same point. -/
structure Watch.Alone (around : Surroundings σ ε ρ) (w : Watch σ ρ) (w' : Wait.BufferWatch) :
    Prop where
  now : w'.now = w.now
  detail : w'.detail = w.detail
  seen : w'.seen = w.seen
  content : w'.state.buffer.data = (around.buffer w.state).data

/-- A wait on a buffer alone has ended alike. -/
structure Waited.Alone (around : Surroundings σ ε ρ) (w : Waited σ ρ)
    (w' : Waited BufferBench (Answer BufferBench)) : Prop where
  result : w'.result = w.result
  notices : w'.notices = w.notices
  watch : w.watch.Alone around w'.watch

namespace Wait

variable {wait : Wait} {w' : BufferWatch}

theorem alone_check (alone : w.Alone around w') {result : Option (Except Error Data)}
    {later : Watch σ ρ} (called : wait.check around w = (result, later)) :
    ∃ later', wait.check BufferBench.surroundings w' = (result, later')
      ∧ later.Alone around later' := by
  have held : (BufferBench.surroundings.buffer w'.state).snapshot
      = (around.buffer w.state).snapshot := congrArg Data.received alone.content
  have added (data : Data) : (w.called data).Alone around (w'.called data) :=
    ⟨alone.now, alone.detail, congrArg (· ++ [data]) alone.seen, alone.content⟩
  rw [check_eq wait _ _ held, alone.seen]
  rw [check_eq wait _ _ rfl] at called
  split at called
  · cases called
    exact ⟨_, rfl, added _⟩
  · cases called
    exact ⟨_, rfl, added _⟩
  · cases called
    refine ⟨_, rfl, ?_⟩
    unfold Watch.remember
    split
    · exact added _
    · exact ⟨alone.now, rfl, (added _).seen, alone.content⟩

theorem alone_expire (alone : w.Alone around w') :
    (wait.expire around w).Alone around (wait.expire BufferBench.surroundings w') := by
  have held : (BufferBench.surroundings.buffer w'.state).snapshot
      = (around.buffer w.state).snapshot := congrArg Data.received alone.content
  unfold expire
  rw [alone.detail, alone.now, held]
  exact ⟨rfl, rfl, alone⟩

theorem alone_checkLast (alone : w.Alone around w') :
    (wait.checkLast around w).Alone around (wait.checkLast BufferBench.surroundings w') := by
  unfold checkLast
  split
  · next result later called =>
    obtain ⟨later', called', after⟩ := alone_check alone called
    rw [called']
    exact ⟨rfl, rfl, after⟩
  · next later called =>
    obtain ⟨later', called', after⟩ := alone_check alone called
    rw [called']
    exact alone_expire after

/-- What sleep comes to where chunks are delivered: some have come by the time it ends, or none has
and the time is up. -/
theorem sleep_of_delivers (delivers : around.Delivers) {deadline : Rat}
    {events rest : List (Scheduled ε)} {woke : Bool} {woken : Watch σ ρ} (early : w.now ≤ deadline)
    (slept : sleep around deadline events w = (woke, rest, woken)) :
    woken.seen = w.seen ∧ woken.detail = w.detail
      ∧ if woke then w.now ≤ woken.now ∧ woken.now ≤ deadline
          ∧ (around.buffer w.state).Filled (around.buffer woken.state)
        else woken.now = deadline ∧ around.buffer woken.state = around.buffer w.state := by
  induction events generalizing w with
  | nil =>
    cases slept
    exact ⟨rfl, rfl, rfl, rfl⟩
  | cons e later ih =>
    have filled : (around.buffer w.state).Filled (around.buffer (take around e w).state) :=
      (delivers.happen e.event w.state).trans (delivers.settle _)
    unfold sleep at slept
    dsimp only at slept
    split at slept
    · next due =>
      have onward : w.now ≤ (take around e w).now ∧ (take around e w).now ≤ deadline := by
        unfold take
        dsimp only
        split
        · next before => exact ⟨before, due⟩
        · exact ⟨le_refl _, early⟩
      split at slept
      · cases slept
        exact ⟨rfl, rfl, onward.1, onward.2, filled⟩
      · next quiet =>
        have same : around.buffer (take around e w).state = around.buffer w.state :=
          filled.eq_of_signals (by simpa [notified] using quiet)
        obtain ⟨seen, detail, ends⟩ := ih onward.2 slept
        refine ⟨seen, detail, ?_⟩
        cases woke with
        | true => exact ⟨onward.1.trans ends.1, ends.2.1, same ▸ ends.2.2⟩
        | false => exact ⟨ends.1, ends.2.trans same⟩
    · cases slept
      exact ⟨rfl, rfl, rfl, rfl⟩

/-- An event that is due and notifies wakes the wait, which goes on from there. -/
theorem proceed_of_event [Clock] {failed : Watch σ ρ} {e : Scheduled ε}
    (called : wait.check around w = (none, failed)) (going : ¬ wait.deadline ≤ w.now)
    (allowed : ¬ Clock.refuses (wait.deadline - w.now) = true)
    (quiet : notified around w.state (around.settle w.state) = false) (due : e.time ≤ wait.deadline)
    (noted : notified around (around.settle w.state)
      (around.settle (around.happen e.event (around.settle w.state)).2) = true)
    (rest : List (Scheduled ε)) :
    wait.proceed around (e :: rest) w
      = wait.proceed around rest
        (take around e { failed with state := around.settle w.state }) := by
  have slept : sleep around wait.deadline (e :: rest) { failed with state := around.settle w.state }
      = (true, rest, take around e { failed with state := around.settle w.state }) := by
    rw [sleep, if_pos due]
    exact if_pos noted
  rw [proceed_eq, called]
  dsimp only
  rw [if_neg going, if_neg allowed, if_neg (Bool.eq_false_iff.mp quiet), slept]

/-- So does a chunk that comes in time on the buffer alone. -/
theorem proceed_of_arrival [Clock] {failed : BufferWatch} {time : Rat} {chunk : Bytes}
    (called : wait.check BufferBench.surroundings w' = (none, failed))
    (going : ¬ wait.deadline ≤ w'.now) (allowed : ¬ Clock.refuses (wait.deadline - w'.now) = true)
    (due : time ≤ wait.deadline) (rest : List (Scheduled BufferAct)) :
    wait.proceed BufferBench.surroundings (⟨time, .append (.bytes chunk)⟩ :: rest) w'
      = wait.proceed BufferBench.surroundings rest
        (take BufferBench.surroundings ⟨time, .append (.bytes chunk)⟩ failed) := by
  have kept : failed.state = w'.state := by
    have state := (same_check wait BufferBench.surroundings w').1
    rwa [called] at state
  have noted := BufferBench.notified_happen (.append (.bytes chunk)) w'.state
  have woken := proceed_of_event (e := ⟨time, BufferAct.append (.bytes chunk)⟩) called going allowed
    (bne_self_eq_false _) due noted rest
  rw [woken]
  change wait.proceed _ rest (take _ _ { failed with state := w'.state }) = _
  rw [← kept]

/-- Once the chunk is there, both waits are at the same point again. -/
theorem alone_taken {failed : Watch σ ρ} {failed' : BufferWatch}
    (alone : failed.Alone around failed')
    (woken : Watch σ ρ) {gained : Bytes} (onward : failed.now ≤ woken.now)
    (seen : woken.seen = failed.seen) (detail : woken.detail = failed.detail)
    (content : (around.buffer woken.state).data = (around.buffer failed.state).data ++ gained) :
    woken.Alone around
      (take BufferBench.surroundings ⟨woken.now, .append (.bytes gained)⟩ failed') := by
  refine ⟨?_, alone.detail.trans detail.symm, alone.seen.trans seen.symm, ?_⟩
  · exact if_pos (alone.now ▸ onward)
  · rw [content, ← alone.content]
    exact BufferBench.data_happen (.append (.bytes gained)) failed'.state

theorem same_of_check {failed : Watch σ ρ} {result : Option (Except Error Data)}
    (called : wait.check around w = (result, failed)) :
    failed.now = w.now ∧ failed.state = w.state := by
  have now := now_check wait around w
  have state := (same_check wait around w).1
  rw [called] at now state
  exact ⟨now, state⟩

/-- Surroundings that settle without a signal have delivered nothing. -/
theorem settled_of_quiet (delivers : around.Delivers) {failed : Watch σ ρ}
    (state : failed.state = w.state)
    (quiet : ¬ notified around w.state (around.settle w.state) = true) :
    around.buffer (around.settle w.state) = around.buffer failed.state := by
  rw [state]
  exact (delivers.settle w.state).eq_of_signals (by simpa [notified] using quiet)

/-- A wait to which chunks are delivered goes as one on a buffer alone, to which they come when it
wakes up. -/
theorem alone_proceed [Clock] (delivers : around.Delivers) (wait : Wait)
    (events : List (Scheduled ε)) (w : Watch σ ρ) : ∀ w', w.Alone around w' →
      ∃ arrivals, Arrivals w.now arrivals ∧ (wait.proceed around events w).Alone around
        (wait.proceed BufferBench.surroundings arrivals w') := by
  -- The wait leads, and what it finds when it wakes up is what arrives at the buffer alone.
  fun_induction proceed wait around events w with
  | case1 events w result checked called =>
    intro w' alone
    obtain ⟨later', called', after⟩ := alone_check alone called
    refine ⟨[], .nil _, ?_⟩
    rw [proceed_eq, called']
    exact ⟨rfl, rfl, after⟩
  | case2 events w failed called late =>
    intro w' alone
    obtain ⟨failed', called', after⟩ := alone_check alone called
    refine ⟨[], .nil _, ?_⟩
    rw [proceed_eq, called']
    dsimp only
    rw [alone.now, if_pos late]
    exact alone_expire after
  | case3 events w failed called going tooLong =>
    intro w' alone
    obtain ⟨failed', called', after⟩ := alone_check alone called
    refine ⟨[], .nil _, ?_⟩
    rw [proceed_eq, called']
    dsimp only
    rw [alone.now, if_neg going, if_pos tooLong]
    exact ⟨rfl, rfl, after⟩
  | case4 events w failed called going allowed settled noted ih =>
    intro w' alone
    obtain ⟨failed', called', after⟩ := alone_check alone called
    obtain ⟨now, state⟩ := same_of_check called
    obtain ⟨gained, content⟩ := (delivers.settle w.state).data
    have received : (around.buffer settled.state).data
        = (around.buffer failed.state).data ++ gained := by
      rw [state]
      exact content
    have taken := alone_taken after settled (le_refl _) rfl rfl received
    obtain ⟨arrivals, inOrder, ends⟩ := ih _ taken
    rw [← alone.now] at going allowed
    have due : settled.now ≤ wait.deadline :=
      (now.trans alone.now.symm).trans_le (le_of_not_ge going)
    refine ⟨_, .cons (Eq.ge now) gained inOrder, ?_⟩
    rw [proceed_of_arrival called' going allowed due]
    exact ends
  | case5 events w failed called going allowed settled quiet rest woken slept ih =>
    intro w' alone
    obtain ⟨failed', called', after⟩ := alone_check alone called
    obtain ⟨now, state⟩ := same_of_check called
    have level : around.buffer settled.state = around.buffer failed.state :=
      settled_of_quiet delivers state quiet
    rw [← alone.now] at going allowed
    have early : settled.now ≤ wait.deadline :=
      (now.trans alone.now.symm).trans_le (le_of_not_ge going)
    obtain ⟨seen, detail, onward, due, filled⟩ := sleep_of_delivers delivers early slept
    obtain ⟨gained, content⟩ := filled.data
    rw [level] at content
    obtain ⟨arrivals, inOrder, ends⟩ := ih _ (alone_taken after _ onward seen detail content)
    refine ⟨_, .cons (now.symm.trans_le onward) gained inOrder, ?_⟩
    rw [proceed_of_arrival called' going allowed due]
    exact ends
  | case6 events w failed called going allowed settled quiet rest woken slept =>
    intro w' alone
    obtain ⟨failed', called', after⟩ := alone_check alone called
    obtain ⟨now, state⟩ := same_of_check called
    have level : around.buffer settled.state = around.buffer failed.state :=
      settled_of_quiet delivers state quiet
    rw [← alone.now] at going allowed
    have early : settled.now ≤ wait.deadline :=
      (now.trans alone.now.symm).trans_le (le_of_not_ge going)
    obtain ⟨seen, detail, up, same⟩ := sleep_of_delivers delivers early slept
    refine ⟨[], .nil _, ?_⟩
    rw [proceed_of_quiet wait _ (fun _ => rfl), called']
    dsimp only
    rw [if_neg going, if_neg allowed]
    exact alone_checkLast ⟨up.symm, after.detail.trans detail.symm, after.seen.trans seen.symm,
      after.content.trans (congrArg Buffer.data (same.trans level)).symm⟩

/-- A wait among deliveries ends on one of the occasions that their arrivals give, unless it cannot
begin or is refused its first sleep. -/
theorem exists_arrivals [Clock] (delivers : around.Delivers) (wait : Wait) {s : σ}
    (bounded : wait.timeout.isTooLarge = false)
    (allowed : ¬ wait.Refused (around.buffer s).snapshot) (events : List (Scheduled ε)) :
    ∃ arrivals n o ended, Arrivals 0 arrivals
      ∧ (wait.run around events s).Alone around ended
      ∧ EndsAt wait (around.buffer s).data (occasions wait.deadline arrivals) n o ended := by
  let alone : BufferBench := ⟨around.buffer s, []⟩
  have begins : (Watch.start s : Watch σ ρ).Alone around (.start alone) := ⟨rfl, rfl, rfl, rfl⟩
  obtain ⟨arrivals, inOrder, ends⟩ :=
    alone_proceed delivers wait (schedule events) (.start s) _ begins
  obtain ⟨n, o, endsAt⟩ := @exists_endsAt _ wait alone bounded allowed arrivals
  refine ⟨arrivals, n, o, _, inOrder, ?_, endsAt⟩
  rw [run, run, bounded, if_neg Bool.false_ne_true, if_neg Bool.false_ne_true, inOrder.schedule]
  exact ends

end Wait

/-! ### One event that is waited for -/

theorem Watch.remember_fields (w : Watch σ ρ) (m : Mismatch) :
    (w.remember m).now = w.now ∧ (w.remember m).state = w.state ∧ (w.remember m).seen = w.seen := by
  unfold remember
  split
  · exact ⟨rfl, rfl, rfl⟩
  · exact ⟨rfl, rfl, rfl⟩

/-- The only event comes in time and brings what the wait was still missing. -/
structure Wait.Answered [Clock] (wait : Wait) (around : Surroundings σ ε ρ) (e : Scheduled ε)
    (s later : σ) : Prop where
  bounded : wait.timeout.isTooLarge = false
  missing : ∃ m, wait.finding 0 (around.buffer s).snapshot = .ok (some m)
  going : 0 < wait.deadline
  allowed : Clock.refuses wait.deadline = false
  quiet : notified around s (around.settle s) = false
  ahead : 0 ≤ e.time
  due : e.time ≤ wait.deadline
  brings : around.settle (around.happen e.event (around.settle s)).2 = later
  noted : notified around (around.settle s) later = true
  found : wait.finding 1 (around.buffer later).snapshot = .ok none

theorem Wait.Answered.ends [Clock] {wait : Wait} {e : Scheduled ε} {s later : σ}
    (answered : wait.Answered around e s later) :
    (wait.run around [e] s).result = .ok (around.buffer later).snapshot
      ∧ (wait.run around [e] s).watch.now = e.time
      ∧ (wait.run around [e] s).watch.state = later ∧ (wait.run around [e] s).notices = [] := by
  obtain ⟨bounded, ⟨m, missing⟩, going, allowed, quiet, ahead, due, rfl, noted, found⟩ := answered
  have called : wait.check around (.start s)
      = (none, ((Watch.start s).called (around.buffer s).snapshot).remember m) := by
    rw [check_start wait around rfl, missing]
  obtain ⟨now, -, seen⟩ :=
    Watch.remember_fields ((Watch.start s : Watch σ ρ).called (around.buffer s).snapshot) m
  generalize ((Watch.start s : Watch σ ρ).called _).remember m = failed at called now seen
  have whole : wait.deadline - (Watch.start s : Watch σ ρ).now = wait.deadline := sub_zero _
  have begun : wait.run around [e] s
      = wait.proceed around [] (take around e { failed with state := around.settle s }) := by
    rw [run, bounded, if_neg Bool.false_ne_true, schedule, List.mergeSort_singleton]
    refine proceed_of_event called (not_le.mpr going) ?_ quiet due noted []
    rw [whole, allowed]
    exact Bool.false_ne_true
  have calls : (take around e { failed with state := around.settle s }).seen.length = 1 :=
    congrArg List.length seen
  have clock : (take around e { failed with state := around.settle s }).now = e.time := by
    refine if_pos ?_
    rw [now]
    exact ahead
  rw [begun, proceed_eq, check_eq wait around _ rfl, calls]
  dsimp only [take] at clock ⊢
  rw [found]
  exact ⟨rfl, clock, rfl, rfl⟩

/-! ### The buffers of a bench -/

namespace Bench

/-- Handing a chunk over appends it to at most one buffer. -/
theorem filled_hand (b : Bench) (s : Subscription) (chunk : Bytes) (index : Nat) :
    (b.buffer index).Filled ((b.hand s chunk).2.buffer index) := by
  unfold hand
  cases s.sink with
  | buffer place =>
    simp only [buffer, List.getElem?_modify]
    by_cases here : place = index
    · cases b.buffers[index]? with
      | none => exact .refl _
      | some held =>
        simp only [if_pos here]
        exact .append held chunk
    · simp only [if_neg here, id_map']
      exact .refl _
  | listener place =>
    dsimp only
    cases b.listeners[place]? with
    | none => exact .refl _
    | some listener =>
      dsimp only
      cases listener.reactions with
      | nil => exact .refl _
      | cons reaction rest => exact .refl _

theorem requestStop_buffers (b : Bench) : b.requestStop.buffers = b.buffers := by
  unfold requestStop
  dsimp only
  split
  · rfl
  · rfl

theorem buffer_congr {b b' : Bench} (same : b'.buffers = b.buffers) (index : Nat) :
    (b.buffer index).Filled (b'.buffer index) := by
  rw [buffer, buffer, same]
  exact .refl _

end Bench

open Bench in
/-- All that the thread does to buffers is to deliver chunks. -/
theorem Moment.Turn.filled {m m' : Moment} (turn : Turn m m') (index : Nat) :
    (m.bench.buffer index).Filled (m'.bench.buffer index) := by
  cases turn with
  | beginRound alive going => exact .refl _
  | fail fetched =>
    obtain ⟨-, -, -, -, -, -, buffers⟩ := fetch_fields fetched
    exact buffer_congr buffers index
  | pass fetched =>
    obtain ⟨-, -, -, -, -, -, buffers⟩ := fetch_fields fetched
    exact buffer_congr buffers index
  | @hand b later s rest c cs fetched =>
    obtain ⟨-, -, -, -, -, -, buffers⟩ := fetch_fields fetched
    exact (buffer_congr buffers index).trans (filled_hand later s (c :: cs) index)
  | @unsubscribe b rest key =>
    unfold Bench.unsubscribe
    cases b.handles.get? key with
    | none => exact .refl _
    | some id => exact .refl _
  | feed endpoint chunks => exact .refl _
  | @stop b rest =>
    unfold stopFromThread
    cases b.scheduler.thread with
    | none => exact .refl _
    | some t => exact buffer_congr b.requestStop_buffers index
  | complain n => exact .refl _
  | finish alive asked => exact .refl _

theorem Moment.Turns.filled {m m' : Moment} (turns : Turns m m') (index : Nat) :
    (m.bench.buffer index).Filled (m'.bench.buffer index) := by
  induction turns with
  | refl => exact .refl _
  | tail _ turn ih => exact ih.trans (turn.filled index)

theorem Bench.filled_settle (b : Bench) (index : Nat) :
    (b.buffer index).Filled (b.settle.buffer index) :=
  (Moment.turns_settle b).filled index

theorem Bench.filled_perform (act : DeviceAct) (b : Bench) (index : Nat) :
    (b.buffer index).Filled ((b.perform act).2.buffer index) := by
  cases act with
  | pump => exact b.filled_settle index
  | _ => exact .refl _

/-! ### Waits on channels -/

/-- A wait for some data on a buffer that held `initial` has come to a result after some time: it
ends there on one of the occasions that chunks give which arrive one after another. -/
def Wait.EndsAmong (wait : Wait) (initial : Bytes) (result : Except Error Data) (elapsed : Rat)
    (content : Bytes) : Prop :=
  ∃ arrivals n o, ∃ ended : Waited BufferBench (Answer BufferBench), Arrivals 0 arrivals
    ∧ wait.EndsAt initial (occasions wait.deadline arrivals) n o ended ∧ ended.result = result
    ∧ ended.watch.now = elapsed ∧ ended.watch.state.buffer.data = content

/-- What goes on around a wait on a channel while devices are acted on. -/
def Channel.surroundings (c : Channel) : Surroundings Registry DeviceAct (Answer Registry) :=
  .ofBench (fun g => g.bench) (fun b g => { g with bench := b }) (fun _ _ => rfl) c.buffer
    fun act g =>
      let answer := Answer.ofAct (fun act g => g.perform (.device act)) act g
      (answer, answer.after)

theorem Channel.delivers_surroundings (c : Channel) : c.surroundings.Delivers :=
  ⟨fun g => g.bench.filled_settle c.buffer, fun act g => g.bench.filled_perform act c.buffer⟩

section Channels

variable [Clock] {g : Registry} {c : Channel} {predicate : Predicate} {asked : ChannelWait}

/-- A wait on an open channel, as its buffer sees it. -/
def Registry.waitOn (g : Registry) (c : Channel) (predicate : Predicate) (asked : ChannelWait) :
    Wait :=
  ⟨(g.bench.buffer c.buffer).name, asked.timeout, predicate⟩

variable (predicate) in
/-- The answer of a wait on an open channel. -/
theorem Registry.waitFor_eq (active : g.active asked.name = .ok c)
    (events : List (Scheduled DeviceAct)) :
    let waited := (g.waitOn c predicate asked).run c.surroundings events g
    let answer := g.waitFor (fun act g => g.perform (.device act)) (.ok predicate)
      (some asked) events
    answer.result = replyWith .data waited.result
      ∧ (answer.waiting.map (·.elapsed)).getD 0 = waited.watch.now
      ∧ answer.after = waited.watch.state.onBench fun b =>
        waited.notices.foldl (fun b n => b.note n) b := by
  intro waited answer
  unfold answer waitFor waitOnChannel
  dsimp only [id]
  rw [active]
  exact ⟨rfl, rfl, rfl⟩

/-- A wait on a channel, around which devices are acted on, goes as one on the channel's buffer to
which chunks arrive, unless it cannot begin or is refused its first sleep. -/
theorem Registry.waitFor_endsAmong (active : g.active asked.name = .ok c)
    (bounded : asked.timeout.isTooLarge = false) (events : List (Scheduled DeviceAct))
    (allowed : ¬ (g.waitOn c predicate asked).Refused (g.bench.buffer c.buffer).snapshot) :
    let answer := g.waitFor (fun act g => g.perform (.device act)) (.ok predicate)
      (some asked) events
    ∃ result, answer.result = replyWith .data result
      ∧ (g.waitOn c predicate asked).EndsAmong (g.bench.buffer c.buffer).data result
        ((answer.waiting.map (·.elapsed)).getD 0) (answer.after.bench.buffer c.buffer).data := by
  intro answer
  obtain ⟨result, elapsed, after⟩ := Registry.waitFor_eq predicate active events
  obtain ⟨arrivals, n, o, ended, inOrder, alone, endsAt⟩ :=
    Wait.exists_arrivals c.delivers_surroundings (g.waitOn c predicate asked) bounded allowed events
  refine ⟨_, result, arrivals, n, o, ended, inOrder, endsAt, alone.result, ?_, ?_⟩
  · exact alone.watch.now.trans elapsed.symm
  · rw [after, onBench, Bench.foldl_note]
    exact alone.watch.content

/-- The only event brings what a wait on a channel was still missing. -/
theorem Registry.waitFor_of_answered {e : Scheduled DeviceAct} {later : Registry}
    (active : g.active asked.name = .ok c)
    (answered : (g.waitOn c predicate asked).Answered c.surroundings e g later) :
    let answer := g.waitFor (fun act g => g.perform (.device act)) (.ok predicate) (some asked) [e]
    answer.result = .ok (.data (later.bench.buffer c.buffer).snapshot)
      ∧ (answer.waiting.map (·.elapsed)).getD 0 = e.time ∧ answer.after = later := by
  obtain ⟨result, elapsed, after⟩ := Registry.waitFor_eq predicate active [e]
  obtain ⟨found, now, state, notices⟩ := answered.ends
  refine ⟨?_, elapsed.trans now, ?_⟩
  · rw [result, found]
    rfl
  · rw [after, notices, state]
    rfl

end Channels

end AcceptanceBench
