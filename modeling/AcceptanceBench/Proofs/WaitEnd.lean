import AcceptanceBench.Proofs.Occasion
import AcceptanceBench.Proofs.WaitPreserves

/-!
How a wait on a buffer ends. It goes through its occasions in order and calls the predicate on each,
until a call settles the matter or no occasion is left; nothing else decides its result, its length
or what the predicate is called with. A clock that refuses to sleep for the time limit does so after
the first call, and not again: later there is less left to sleep.
-/

namespace AcceptanceBench

namespace Wait

variable {σ ε ρ : Type}

/-- What a call of the predicate means to the wait; calls are counted from zero. -/
def finding (wait : Wait) (call : Nat) (data : Data) : Except Error (Option Mismatch) :=
  (wait.predicate call data).judge data

/-- The detail that a failed call gives, if it gives any. -/
def detail? (wait : Wait) (call : Nat) (data : Data) : Option Mismatch :=
  match wait.finding call data with
  | .ok (some m) => if m.operator = "" then none else some m
  | _ => none

/-- The details that calls of the predicate gave, in order. -/
def details (wait : Wait) (seen : List Data) : List Mismatch :=
  seen.zipIdx.filterMap fun (data, call) => wait.detail? call data

/-- The error of a wait whose time is up: the latest detail, or the data of the last call. -/
def timeoutError (wait : Wait) (elapsed : Rat) (seen : List Data) (last : Data) : Error :=
  match (wait.details seen).getLast? with
  | some m => .lastMismatch wait.name elapsed m
  | none => .noMatch wait.name wait.timeout last

/-- A wait on a buffer that held `initial` ends on occasion `o`, which is number `n` of its
occasions. -/
structure EndsAt (wait : Wait) (initial : Bytes) (all : List Occasion) (n : Nat) (o : Occasion)
    (ended : Waited BufferBench ρ) : Prop where
  place : all[n]? = some o
  called : ended.watch.seen = (all.take (n + 1)).map (·.data initial)
  failed : ∀ i p, i < n → all[i]? = some p → ∃ m, wait.finding i (p.data initial) = .ok (some m)
  clock : ended.watch.now = o.time
  content : ended.watch.state.buffer.data = contentAfter initial o.past
  result :
    match wait.finding n (o.data initial) with
    | .ok none => ended.result = .ok (o.data initial)
    | .error e => ended.result = .error e
    | .ok (some _) =>
      n + 1 = all.length ∧ ended.watch.now = max 0 wait.deadline
        ∧ ended.result =
          .error (wait.timeoutError ended.watch.now ended.watch.seen (o.data initial))

/-- One more call adds its detail to the details. -/
theorem details_append (wait : Wait) (seen : List Data) (data : Data) :
    wait.details (seen ++ [data])
      = wait.details seen ++ (wait.detail? seen.length data).toList := by
  unfold details
  rw [List.zipIdx_append, List.filterMap_append]
  cases h : wait.detail? seen.length data <;> simp [h]

/-- A check calls the predicate once, on what the buffer holds. -/
theorem check_eq (wait : Wait) (around : Surroundings σ ε ρ) (w : Watch σ ρ) {data : Data}
    (held : (around.buffer w.state).snapshot = data) :
    wait.check around w =
      match wait.finding w.seen.length data with
      | .error e => (some (.error e), w.called data)
      | .ok none => (some (.ok data), w.called data)
      | .ok (some m) => (none, (w.called data).remember m) := by
  subst held
  rfl

/-- The first call of a wait is on what the buffer holds when it begins. -/
theorem check_start (wait : Wait) (around : Surroundings σ ε ρ) {s : σ} {data : Data}
    (held : (around.buffer s).snapshot = data) :
    wait.check around (.start s) =
      match wait.finding 0 data with
      | .error e => (some (.error e), (Watch.start s).called data)
      | .ok none => (some (.ok data), (Watch.start s).called data)
      | .ok (some m) => (none, ((Watch.start s).called data).remember m) :=
  check_eq wait around (.start s) held

theorem result_expire (wait : Wait) (around : Surroundings σ ε ρ) {w : Watch σ ρ} {seen : List Data}
    (latest : w.detail = (wait.details seen).getLast?) :
    (wait.expire around w).result
      = .error (wait.timeoutError w.now seen (around.buffer w.state).snapshot) := by
  cases last : (wait.details seen).getLast? with
  | none => simp only [expire, timeoutError, latest, last]
  | some m => simp only [expire, timeoutError, latest, last]

/-- Where settling changes nothing, a failed check is followed by sleep at once. -/
theorem proceed_of_quiet [Clock] (wait : Wait) (around : Surroundings σ ε ρ)
    (quiet : ∀ s, around.settle s = s) (events : List (Scheduled ε)) (w : Watch σ ρ) :
    wait.proceed around events w =
      match wait.check around w with
      | (some result, w) => ⟨result, w, []⟩
      | (none, failed) =>
        if wait.deadline ≤ w.now then wait.expire around failed
        else if Clock.refuses (wait.deadline - w.now) then ⟨.error .sleepTooLong, failed, []⟩
        else
          match sleep around wait.deadline events failed with
          | (true, rest, woken) => wait.proceed around rest woken
          | (false, _, woken) => wait.checkLast around woken := by
  have turn := wait.proceed_eq around events w
  have same := (same_check wait around w).1
  rcases hc : wait.check around w with ⟨_ | result, failed⟩
  · rw [hc] at turn
    have kept : failed.state = w.state := by rw [← same, hc]
    have settled : { failed with state := around.settle w.state } = failed := by
      rw [quiet, ← kept]
    have silent : notified around w.state (around.settle w.state) = false := by
      rw [quiet, notified, bne_self_eq_false]
    simp only [settled, silent, Bool.false_eq_true, if_false] at turn
    exact turn
  · rw [hc] at turn
    exact turn

/-- A wait stands after some acts, with events still to come, none of which lies in its past. -/
structure Stands (initial : Bytes) (past : List BufferAct) (coming : List (Scheduled BufferAct))
    (w : Watch BufferBench ρ) : Prop where
  sorted : coming.Pairwise fun a b => a.time ≤ b.time
  begun : 0 ≤ w.now
  ahead : ∀ e ∈ coming, w.now ≤ max 0 e.time
  content : w.state.buffer.data = contentAfter initial past

/-- A wait on a buffer under way. -/
abbrev BufferWatch := Watch BufferBench (Answer BufferBench)

/-- Taking the next event moves the clock to its time and carries its act out. -/
theorem Stands.taken {initial : Bytes} {past : List BufferAct} {e : Scheduled BufferAct}
    {rest : List (Scheduled BufferAct)} {w : BufferWatch}
    (h : Stands initial past (e :: rest) w) :
    Stands initial (past ++ [e.event]) rest (take BufferBench.surroundings e w)
      ∧ (take BufferBench.surroundings e w).now = max 0 e.time := by
  obtain ⟨first, sorted⟩ := List.pairwise_cons.mp h.sorted
  have now : (take BufferBench.surroundings e w).now = max 0 e.time := by
    have ahead := h.ahead e (List.mem_cons_self ..)
    have begun := h.begun
    simp only [take]
    grind
  refine ⟨⟨sorted, ?_, ?_, ?_⟩, now⟩
  · rw [now]
    exact le_max_left ..
  · intro later member
    rw [now]
    exact max_le_max_left 0 (first later member)
  · rw [contentAfter_append, ← h.content]
    exact BufferBench.data_happen e.event w.state

/-- The next occasion comes up, and those after it stay as they are. -/
structure Wakes (deadline : Rat) (initial : Bytes) (past : List BufferAct)
    (coming : List (Scheduled BufferAct)) (past' : List BufferAct)
    (rest : List (Scheduled BufferAct)) (woken : BufferWatch) : Prop where
  stands : Stands initial past' rest woken
  shorter : rest.length < coming.length
  inTime : woken.now ≤ max 0 deadline
  next : wakings past (dueBy deadline coming)
    = ⟨woken.now, past'⟩ :: wakings past' (dueBy deadline rest)
  acts : past ++ (dueBy deadline coming).map (·.event)
    = past' ++ (dueBy deadline rest).map (·.event)

/-- No event notifies any more, and the clock has come to the deadline. -/
structure TimeUp (deadline : Rat) (initial : Bytes) (past : List BufferAct)
    (coming : List (Scheduled BufferAct)) (woken : BufferWatch) : Prop where
  now : woken.now = deadline
  quiet : wakings past (dueBy deadline coming) = []
  content : woken.state.buffer.data
    = contentAfter initial (past ++ (dueBy deadline coming).map (·.event))

/-- A due event that does not notify is slept through. -/
theorem wakings_dueBy_cons {deadline : Rat} {e : Scheduled BufferAct} (past : List BufferAct)
    (rest : List (Scheduled BufferAct)) (due : e.time ≤ deadline)
    (silent : e.event.notifies = false) :
    wakings past (dueBy deadline (e :: rest))
      = wakings (past ++ [e.event]) (dueBy deadline rest) := by
  rw [dueBy_cons_of_le due, wakings, silent]
  rfl

theorem map_event_dueBy_cons {deadline : Rat} {e : Scheduled BufferAct} (past : List BufferAct)
    (rest : List (Scheduled BufferAct)) (due : e.time ≤ deadline) :
    past ++ (dueBy deadline (e :: rest)).map (·.event)
      = (past ++ [e.event]) ++ (dueBy deadline rest).map (·.event) := by
  rw [dueBy_cons_of_le due, List.map_cons, List.append_assoc]
  rfl

/-- Sleep ends at the next event that notifies, if one is due, and at the deadline otherwise. -/
theorem Stands.slept {initial : Bytes} (deadline : Rat) {past : List BufferAct}
    {coming : List (Scheduled BufferAct)} {w : BufferWatch} (h : Stands initial past coming w) :
    ∃ b rest woken, sleep BufferBench.surroundings deadline coming w = (b, rest, woken)
      ∧ woken.seen = w.seen ∧ woken.detail = w.detail
      ∧ ((b = true ∧ ∃ past', Wakes deadline initial past coming past' rest woken)
        ∨ (b = false ∧ TimeUp deadline initial past coming woken)) := by
  induction coming generalizing past w with
  | nil =>
    refine ⟨_, _, _, rfl, rfl, rfl, Or.inr ⟨rfl, rfl, rfl, ?_⟩⟩
    simpa [dueBy] using h.content
  | cons e rest ih =>
    by_cases due : e.time ≤ deadline
    · obtain ⟨later, now⟩ := h.taken
      have signal := BufferBench.notified_happen e.event w.state
      have acts := map_event_dueBy_cons past rest due
      cases notifies : e.event.notifies with
      | true =>
        refine ⟨true, rest, take BufferBench.surroundings e w, ?_, rfl, rfl,
          Or.inl ⟨rfl, _, later, Nat.lt_succ_self _, ?_, ?_, acts⟩⟩
        · rw [sleep, if_pos due]
          exact if_pos (signal.trans notifies)
        · rw [now]
          exact max_le_max_left 0 due
        · rw [dueBy_cons_of_le due, wakings, if_pos notifies, now]
      | false =>
        have skip := wakings_dueBy_cons past rest due notifies
        obtain ⟨b, rest', woken, slept, seen, detail, ends⟩ := ih later
        refine ⟨b, rest', woken, ?_, seen, detail, ?_⟩
        · rw [sleep, if_pos due, ← slept]
          exact if_neg (by rw [← signal] at notifies; exact Bool.eq_false_iff.mp notifies)
        · rcases ends with ⟨hb, past', wakes⟩ | ⟨hb, up⟩
          · exact Or.inl ⟨hb, past', wakes.stands, Nat.lt_succ_of_lt wakes.shorter, wakes.inTime,
              skip.trans wakes.next, acts.trans wakes.acts⟩
          · exact Or.inr ⟨hb, up.now, skip.trans up.quiet, by rw [acts, up.content]⟩
    · have nothing := dueBy_eq_nil (not_le.mp due) (List.pairwise_cons.mp h.sorted).1
      refine ⟨false, [], { w with now := deadline }, if_neg due, rfl, rfl,
        Or.inr ⟨rfl, rfl, ?_, ?_⟩⟩
      · rw [nothing]
        rfl
      · rw [nothing]
        simpa using h.content

/-- A wait has come to occasion `o`, number `n` of all, and the predicate is to be called on it. -/
structure On (wait : Wait) (initial : Bytes) (all : List Occasion) (n : Nat) (o : Occasion)
    (w : BufferWatch) : Prop where
  place : all[n]? = some o
  seen : w.seen = (all.take n).map (·.data initial)
  detail : w.detail = (wait.details w.seen).getLast?
  failed : ∀ i p, i < n → all[i]? = some p → ∃ m, wait.finding i (p.data initial) = .ok (some m)
  clock : w.now = o.time
  content : w.state.buffer.data = contentAfter initial o.past

variable {wait : Wait} {initial : Bytes} {all : List Occasion} {n : Nat} {o : Occasion}
  {w : BufferWatch}

theorem On.calls (h : On wait initial all n o w) : w.seen.length = n := by
  have := (List.getElem?_eq_some_iff.mp h.place).1
  rw [h.seen, List.length_map, List.length_take]
  omega

theorem On.check (h : On wait initial all n o w) :
    wait.check BufferBench.surroundings w =
      match wait.finding n (o.data initial) with
      | .error e => (some (.error e), w.called (o.data initial))
      | .ok none => (some (.ok (o.data initial)), w.called (o.data initial))
      | .ok (some m) => (none, (w.called (o.data initial)).remember m) := by
  have held : (BufferBench.surroundings.buffer w.state).snapshot = o.data initial :=
    congrArg Data.received h.content
  rw [check_eq wait _ w held, h.calls]

theorem On.called (h : On wait initial all n o w) :
    (w.called (o.data initial)).seen = (all.take (n + 1)).map (·.data initial) := by
  rw [Watch.called, h.seen, List.take_add_one, h.place, List.map_append]
  rfl

/-- The call on an occasion leaves its detail, if it gives one, as the latest. -/
theorem On.remembered (h : On wait initial all n o w) {m : Mismatch}
    (fails : wait.finding n (o.data initial) = .ok (some m)) :
    ((w.called (o.data initial)).remember m).seen = (all.take (n + 1)).map (·.data initial)
      ∧ ((w.called (o.data initial)).remember m).detail
        = (wait.details ((all.take (n + 1)).map (·.data initial))).getLast? := by
  have latest : wait.details ((all.take (n + 1)).map (·.data initial))
      = wait.details w.seen ++ (wait.detail? n (o.data initial)).toList := by
    rw [← h.called, Watch.called, details_append, h.calls]
  rw [latest, detail?, fails]
  by_cases bare : m.operator = ""
  · simp only [Watch.remember, if_pos bare]
    exact ⟨h.called, by simpa [Watch.called] using h.detail⟩
  · simp only [Watch.remember, if_neg bare]
    exact ⟨h.called, by simp⟩

/-- A call that succeeds, or that cannot go on, ends the wait on the occasion of the call. -/
theorem On.ends (h : On wait initial all n o w) {result : Except Error Data}
    (settles : match wait.finding n (o.data initial) with
      | .ok none => result = .ok (o.data initial)
      | .error e => result = .error e
      | .ok (some _) => False) (notices : List Notice) :
    EndsAt wait initial all n o ⟨result, w.called (o.data initial), notices⟩ := by
  refine ⟨h.place, h.called, h.failed, h.clock, h.content, ?_⟩
  split at settles
  · exact settles
  · exact settles
  · exact settles.elim

/-- A call that fails on the last occasion ends the wait with what the calls have found. -/
theorem On.expires (h : On wait initial all n o w) {m : Mismatch}
    (fails : wait.finding n (o.data initial) = .ok (some m)) (last : n + 1 = all.length)
    (up : w.now = max 0 wait.deadline) :
    EndsAt wait initial all n o
      (wait.expire BufferBench.surroundings ((w.called (o.data initial)).remember m)) := by
  obtain ⟨seen, detail⟩ := h.remembered fails
  have watch : ((w.called (o.data initial)).remember m).now = w.now
      ∧ ((w.called (o.data initial)).remember m).state = w.state := by
    unfold Watch.remember
    split <;> exact ⟨rfl, rfl⟩
  refine ⟨h.place, seen, h.failed, watch.1.trans h.clock, ?_, ?_⟩
  · exact (congrArg (·.buffer.data) watch.2).trans h.content
  · rw [fails]
    refine ⟨last, watch.1.trans up, ?_⟩
    have held : (BufferBench.surroundings.buffer
        ((w.called (o.data initial)).remember m).state).snapshot = o.data initial := by
      rw [watch.2]
      exact congrArg Data.received h.content
    rw [result_expire wait _ detail, held, ← seen]
    rfl

/-- After a call that fails, the wait may come to the next occasion. -/
theorem On.next (h : On wait initial all n o w) {m : Mismatch}
    (fails : wait.finding n (o.data initial) = .ok (some m)) {o' : Occasion} {woken : BufferWatch}
    (place : all[n + 1]? = some o')
    (seen : woken.seen = ((w.called (o.data initial)).remember m).seen)
    (detail : woken.detail = ((w.called (o.data initial)).remember m).detail)
    (clock : woken.now = o'.time)
    (content : woken.state.buffer.data = contentAfter initial o'.past) :
    On wait initial all (n + 1) o' woken := by
  obtain ⟨remembered, latest⟩ := h.remembered fails
  refine ⟨place, seen.trans remembered, ?_, ?_, clock, content⟩
  · rw [detail, latest, seen, remembered]
  · intro i p before at_i
    rcases Nat.lt_succ_iff_lt_or_eq.mp before with before | rfl
    · exact h.failed i p before at_i
    · obtain rfl : o = p := Option.some.inj (h.place.symm.trans at_i)
      exact ⟨m, fails⟩

/-- The last call, once the time is up. -/
theorem On.checkLast (h : On wait initial all n o w) (last : n + 1 = all.length)
    (up : w.now = max 0 wait.deadline) :
    EndsAt wait initial all n o (wait.checkLast BufferBench.surroundings w) := by
  rw [Wait.checkLast, h.check]
  rcases found : wait.finding n (o.data initial) with e | _ | m
  · exact h.ends (by rw [found]) []
  · exact h.ends (by rw [found]) []
  · exact h.expires found last up

section Clocked

variable [Clock]

/-- The clock refuses to sleep for the time limit of the wait. -/
def isRefused (wait : Wait) : Bool :=
  decide (0 < wait.deadline) && Clock.refuses wait.deadline

/-- The first call, on this data, fails, and what is left of the time is all of it, for which the
clock refuses to sleep. -/
def Refused (wait : Wait) (data : Data) : Prop :=
  wait.isRefused = true ∧ ∃ m, wait.finding 0 data = .ok (some m)

theorem isRefused_iff :
    wait.isRefused = true ↔ 0 < wait.deadline ∧ Clock.refuses wait.deadline := by
  rw [isRefused, Bool.and_eq_true, decide_eq_true_eq]

theorem not_refused (wait : Wait) (allowed : Clock.refuses wait.deadline = false) (data : Data) :
    ¬ wait.Refused data := fun ⟨asked, _⟩ =>
  Bool.false_ne_true (allowed.symm.trans (isRefused_iff.mp asked).2)

/-- Sleeps that the clock does not refuse: whenever one begins, no more is left than at the
start. -/
theorem allowed_of_not_isRefused (allowed : wait.isRefused = false) {now : Rat} (begun : 0 ≤ now)
    (early : ¬ wait.deadline ≤ now) : Clock.refuses (wait.deadline - now) = false := by
  have whole : Clock.refuses wait.deadline = false := by
    refine (Bool.and_eq_false_iff.mp allowed).resolve_left ?_
    rw [Bool.not_eq_false, decide_eq_true_eq]
    exact lt_of_le_of_lt begun (not_le.mp early)
  unfold Clock.refuses at whole ⊢
  cases longest : Clock.longest with
  | none => rfl
  | some longest' =>
    rw [longest, Option.any_some, decide_eq_false_iff_not, not_lt] at whole
    rw [Option.any_some, decide_eq_false_iff_not, not_lt]
    exact (sub_le_self _ begun).trans whole

/-- From an occasion on, the wait goes through the occasions that are left. -/
theorem On.proceed {past : List BufferAct} {coming : List (Scheduled BufferAct)}
    (h : On wait initial all n ⟨w.now, past⟩ w) (stands : Stands initial past coming w)
    (inTime : w.now ≤ max 0 wait.deadline)
    (allowed : (∃ m, wait.finding n (Occasion.data initial ⟨w.now, past⟩) = .ok (some m)) →
      wait.isRefused = false)
    (left : all.drop n = occasionsFrom wait.deadline ⟨w.now, past⟩ coming) :
    ∃ n o, EndsAt wait initial all n o (wait.proceed BufferBench.surroundings coming w) := by
  induction hlen : coming.length using Nat.strong_induction_on generalizing n w past coming with
  | _ len ih =>
  rw [proceed_of_quiet wait _ (fun _ => rfl), h.check]
  rcases found : wait.finding n (Occasion.data initial ⟨w.now, past⟩) with e | _ | m
  · exact ⟨_, _, h.ends (by rw [found]) []⟩
  · exact ⟨_, _, h.ends (by rw [found]) []⟩
  · simp only
    by_cases late : wait.deadline ≤ w.now
    · rw [if_pos late]
      have last : n + 1 = all.length := by
        have := congrArg List.length (left.trans (occasionsFrom_of_le late coming))
        rw [List.length_drop, List.length_singleton] at this
        omega
      exact ⟨_, _, h.expires found last (le_antisymm inTime (max_le stands.begun late))⟩
    · have allowed := allowed ⟨m, found⟩
      rw [if_neg late, allowed_of_not_isRefused allowed stands.begun late,
        if_neg Bool.false_ne_true]
      have rest := congrArg List.tail left
      rw [List.tail_drop, tail_occasionsFrom late] at rest
      have failed : Stands initial past coming
          ((w.called (Occasion.data initial ⟨w.now, past⟩)).remember m) := by
        unfold Watch.remember
        split <;> exact ⟨stands.sorted, stands.begun, stands.ahead, stands.content⟩
      obtain ⟨b, coming', woken, slept, seen, detail, ends⟩ := failed.slept wait.deadline
      rw [slept]
      rcases ends with ⟨rfl, past', wakes⟩ | ⟨rfl, up⟩
      · simp only [wakes.next, wakes.acts] at rest
        have place : all[n + 1]? = some ⟨woken.now, past'⟩ := by
          rw [← Nat.add_zero (n + 1), ← List.getElem?_drop, rest]
          exact occasionsFrom_head wait.deadline ⟨woken.now, past'⟩ coming'
        have comes := h.next found place seen detail rfl wakes.stands.content
        exact ih _ (hlen ▸ wakes.shorter) comes wakes.stands wakes.inTime (fun _ => allowed)
          rest rfl
      · have early : (0 : Rat) ≤ wait.deadline := stands.begun.trans (not_le.mp late).le
        simp only [up.quiet, List.nil_append, throughDeadline, le_refl, if_true] at rest
        have place : all[n + 1]? = some ⟨wait.deadline,
            past ++ (dueBy wait.deadline coming).map (·.event)⟩ := by
          rw [← Nat.add_zero (n + 1), ← List.getElem?_drop, rest]
          rfl
        have last : n + 1 + 1 = all.length := by
          have := congrArg List.length rest
          rw [List.length_drop, List.length_singleton] at this
          omega
        have comes := h.next found place seen detail up.now up.content
        exact ⟨_, _, comes.checkLast last (up.now.trans (max_eq_right early).symm)⟩

/-- A wait that can begin ends on one of the occasions that its schedule gives, unless it is refused
its first sleep. -/
theorem exists_endsAt (wait : Wait) {s : BufferBench} (bounded : wait.timeout.isTooLarge = false)
    (allowed : ¬ wait.Refused s.buffer.snapshot) (events : List (Scheduled BufferAct)) :
    ∃ n o, EndsAt wait s.buffer.data (occasions wait.deadline events) n o
      (wait.run BufferBench.surroundings events s) := by
  have begins : On wait s.buffer.data (occasions wait.deadline events) 0 ⟨0, []⟩ (.start s) :=
    ⟨occasionsFrom_head .., rfl, rfl, fun i _ before => absurd before (Nat.not_lt_zero i), rfl,
      rfl⟩
  have stands : Stands s.buffer.data [] (schedule events) (Watch.start s : BufferWatch) :=
    ⟨schedule_sorted events, le_refl 0, fun e _ => le_max_left 0 e.time, rfl⟩
  rw [run, bounded, if_neg Bool.false_ne_true]
  refine begins.proceed stands (le_max_left ..) (fun failed => ?_) rfl
  exact Bool.eq_false_iff.mpr fun refused => allowed ⟨refused, failed⟩

/-- A wait that can begin is over with its first call if that finds nothing wrong. -/
theorem run_of_found {wait : Wait} {around : Surroundings σ ε ρ} {s : σ} {data : Data}
    (bounded : wait.timeout.isTooLarge = false) (held : (around.buffer s).snapshot = data)
    (found : wait.finding 0 data = .ok none) (events : List (Scheduled ε)) :
    wait.run around events s = ⟨.ok data, (Watch.start s).called data, []⟩ := by
  rw [run, bounded, if_neg Bool.false_ne_true, proceed, check_start wait around held, found]

/-- A wait that is refused its first sleep ends there: the predicate was called once, and nothing
has happened. -/
theorem run_of_refused (wait : Wait) (around : Surroundings σ ε ρ) (s : σ) {data : Data}
    (bounded : wait.timeout.isTooLarge = false) (held : (around.buffer s).snapshot = data)
    (refused : wait.Refused data) (events : List (Scheduled ε)) :
    ∃ m, wait.finding 0 data = .ok (some m) ∧ wait.run around events s
      = ⟨.error .sleepTooLong, ((Watch.start s).called data).remember m, []⟩ := by
  obtain ⟨asked, m, failed⟩ := refused
  obtain ⟨positive, tooLong⟩ := isRefused_iff.mp asked
  have called : wait.check around (.start s)
      = (none, ((Watch.start s).called data).remember m) := by
    rw [check_start wait around held, failed]
  have whole : wait.deadline - (Watch.start s : Watch σ ρ).now = wait.deadline := sub_zero _
  have early : ¬ wait.deadline ≤ (Watch.start s : Watch σ ρ).now := not_le.mpr positive
  refine ⟨m, failed, ?_⟩
  rw [run, bounded, if_neg Bool.false_ne_true, proceed, called]
  dsimp only
  rw [whole, if_neg early, if_pos tooLong]

/-- A wait goes through the occasions that its schedule gives, calls the predicate once on each with
all that the buffer holds then, and ends with the first call that settles it, or else with the last
one. A time limit that no floating-point number can hold is refused before the first call, and one
that the clock cannot sleep for after it, unless that call settles the wait. -/
theorem run_endsAt (wait : Wait) (events : List (Scheduled BufferAct)) (s : BufferBench) :
    let ended := wait.run BufferBench.surroundings events s
    if wait.timeout.isTooLarge then ended = ⟨.error .numberTooLarge, .start s, []⟩
    else
      (wait.Refused s.buffer.snapshot → ended.result = .error .sleepTooLong ∧ ended.watch.now = 0
        ∧ ended.watch.seen = [s.buffer.snapshot] ∧ ended.watch.state = s
        ∧ ended.watch.happened = [] ∧ ended.notices = [])
      ∧ (¬ wait.Refused s.buffer.snapshot →
        ∃ n o, EndsAt wait s.buffer.data (occasions wait.deadline events) n o ended) := by
  intro ended
  cases large : wait.timeout.isTooLarge with
  | true => exact if_pos large
  | false =>
    rw [if_neg Bool.false_ne_true]
    refine ⟨fun refused => ?_, fun allowed => exists_endsAt wait large allowed events⟩
    obtain ⟨m, -, run⟩ := run_of_refused wait BufferBench.surroundings s large rfl refused events
    rw [show ended = _ from run]
    unfold Watch.remember
    split <;> exact ⟨rfl, rfl, rfl, rfl, rfl, rfl⟩

end Clocked

/-- A wait that ends on an occasion has called the predicate. -/
theorem EndsAt.seen_ne_nil {ended : Waited BufferBench ρ}
    (h : EndsAt wait initial all n o ended) : ended.watch.seen ≠ [] := by
  rw [h.called, List.take_add_one, h.place, List.map_append]
  exact List.append_ne_nil_of_right_ne_nil _ (by simp)

/-- The first call of a wait that ends on an occasion was on what the buffer held at the start. -/
theorem EndsAt.first {deadline : Rat} {events : List (Scheduled BufferAct)}
    {ended : Waited BufferBench ρ} (h : EndsAt wait initial (occasions deadline events) n o ended) :
    ended.watch.seen[0]? = some (.received initial) := by
  rw [h.called, List.getElem?_map, List.getElem?_take_of_lt (Nat.succ_pos n), occasions,
    occasionsFrom_head]
  rfl

/-- So not every time limit leads to such an end. Within `10 ^ 400` seconds even a predicate that
would accept anything is not called, and by the clock of threads a wait of `10 ^ 10` seconds is over
before any time has passed, though the only call has failed. -/
theorem not_endsAt_of_tooLarge :
    letI : Clock := .threads
    let endless : Wait :=
      ⟨"Serial", .whole (.number (Nat.pow 10 400 : Nat)), fun _ _ => .answered true⟩
    let long : Wait :=
      ⟨"Serial", .whole (.number (Nat.pow 10 10 : Nat)), fun _ _ => .answered false⟩
    let s : BufferBench := ⟨.empty "Serial", []⟩
    (¬ ∃ n o, EndsAt endless s.buffer.data (occasions endless.deadline []) n o
        (endless.run BufferBench.surroundings [] s))
      ∧ ¬ ∃ n o, EndsAt long s.buffer.data (occasions long.deadline []) n o
        (long.run BufferBench.surroundings [] s) := by
  let _ : Clock := .threads
  intro endless long s
  constructor
  · rintro ⟨n, o, ends⟩
    have large : endless.timeout.isTooLarge = true := by decide +kernel
    have refused : endless.run BufferBench.surroundings [] s
        = ⟨.error .numberTooLarge, .start s, []⟩ := if_pos large
    exact ends.seen_ne_nil (by rw [refused]; rfl)
  · rintro ⟨n, o, ends⟩
    have bounded : long.timeout.isTooLarge = false := by decide +kernel
    have refused : long.Refused s.buffer.snapshot := ⟨by decide +kernel, _, rfl⟩
    have atOnce := run_endsAt long [] s
    rw [bounded, if_neg Bool.false_ne_true] at atOnce
    obtain ⟨-, now, -⟩ := atOnce.1 refused
    have result := ends.result
    have failed : long.finding n (o.data s.buffer.data)
        = .ok (some ⟨"", .text "", o.data s.buffer.data, ""⟩) := rfl
    rw [failed, now] at result
    exact absurd result.2.1 (by decide +kernel)

end Wait

end AcceptanceBench
