import AcceptanceBench.Proofs.Blame
import AcceptanceBench.Proofs.WaitEnd

/-!
How a wait ends. A wait without a match reports that as an error of the bench; any other error is
one that its predicate raises, at once when it raises it, or tells that the clock cannot sleep for
the time limit. What a wait returns was found without a
mismatch by a call of its predicate, in time. A predicate that compares raises errors only if it
matches a pattern.
-/

namespace AcceptanceBench

namespace Wait

variable {σ ε ρ : Type}

theorem finding_of_check {wait : Wait} {around : Surroundings σ ε ρ} {w later : Watch σ ρ}
    {e : Error} (called : wait.check around w = (some (.error e), later)) :
    ∃ call data, wait.finding call data = .error e := by
  rw [check_eq wait around w rfl] at called
  cases found : wait.finding w.seen.length (around.buffer w.state).snapshot with
  | error e' =>
    rw [found] at called
    cases called
    exact ⟨_, _, found⟩
  | ok detail =>
    rw [found] at called
    cases detail with
    | none => cases called
    | some m => cases called

/-- What the predicate raises on the data at the beginning ends the wait at once. -/
theorem run_of_finding [Clock] {wait : Wait} {around : Surroundings σ ε ρ}
    {events : List (Scheduled ε)} {s : σ} {e : Error} (bounded : wait.timeout.isTooLarge = false)
    (raised : wait.finding 0 (around.buffer s).snapshot = .error e) :
    wait.run around events s
      = ⟨.error e, (Watch.start s).called (around.buffer s).snapshot, []⟩ := by
  rw [run, bounded, if_neg Bool.false_ne_true, proceed, check_start wait around rfl, raised]

/-- An error that ends a wait is reported for want of a match, or refuses the first sleep, or it is
the predicate's. -/
inductive Ends [Clock] (wait : Wait) (e : Error) : Prop
  | reported (bench : e.isBench = true)
  | refused (asked : wait.isRefused = true) (tooLong : e = .sleepTooLong)
  | raised (call : Nat) (data : Data) (found : wait.finding call data = .error e)

theorem now_check (wait : Wait) (around : Surroundings σ ε ρ) (w : Watch σ ρ) :
    (wait.check around w).2.now = w.now := by
  rw [check_eq wait around w rfl]
  split
  · rfl
  · rfl
  · unfold Watch.remember
    split
    · rfl
    · rfl

/-- The clock never goes back in a sleep that has not yet come to the deadline. -/
theorem le_now_sleep {around : Surroundings σ ε ρ} {deadline : Rat} {events : List (Scheduled ε)}
    {w : Watch σ ρ} (early : w.now ≤ deadline) :
    w.now ≤ (sleep around deadline events w).2.2.now := by
  induction events generalizing w with
  | nil => exact early
  | cons e rest ih =>
    unfold sleep
    split
    · next due =>
      have later : w.now ≤ (take around e w).now ∧ (take around e w).now ≤ deadline := by
        unfold take
        dsimp only
        split
        · next ahead => exact ⟨ahead, due⟩
        · exact ⟨le_refl _, early⟩
      dsimp only
      split
      · exact later.1
      · exact later.1.trans (ih later.2)
    · exact early

theorem ends_of_expire [Clock] {wait : Wait} {around : Surroundings σ ε ρ} {w : Watch σ ρ}
    {e : Error} (failed : (wait.expire around w).result = .error e) : wait.Ends e := by
  unfold expire at failed
  cases detail : w.detail with
  | none =>
    rw [detail] at failed
    cases failed
    exact .reported rfl
  | some m =>
    rw [detail] at failed
    cases failed
    exact .reported rfl

theorem ends_of_proceed [Clock] {wait : Wait} {around : Surroundings σ ε ρ}
    {events : List (Scheduled ε)} {w : Watch σ ρ} {e : Error} (begun : 0 ≤ w.now)
    (failed : (wait.proceed around events w).result = .error e) : wait.Ends e := by
  -- A check may end the wait in its first case and in its last; only there a predicate's error
  -- counts.
  fun_induction proceed wait around events w with
  | case1 events w result checked called =>
    obtain rfl : result = .error e := failed
    obtain ⟨call, data, found⟩ := finding_of_check called
    exact .raised call data found
  | case2 events w failed' called late => exact ends_of_expire failed
  | case3 events w failed' called going tooLong =>
    cases failed
    refine .refused (Bool.of_not_eq_false fun allowed => ?_) rfl
    rw [allowed_of_not_isRefused allowed begun going] at tooLong
    exact Bool.false_ne_true tooLong
  | case4 events w failed' called going allowed settled noted ih =>
    have clock := now_check wait around w
    rw [called] at clock
    exact ih (clock.symm ▸ begun) failed
  | case5 events w failed' called going allowed settled quiet rest woken slept ih =>
    have clock := now_check wait around w
    rw [called] at clock
    have onward : settled.now ≤ (sleep around wait.deadline events settled).2.2.now :=
      le_now_sleep (clock.trans_le (not_le.mp going).le)
    rw [slept] at onward
    exact ih ((clock.symm ▸ begun : 0 ≤ settled.now).trans onward) failed
  | case6 events w failed' called going allowed settled quiet rest woken slept =>
    unfold checkLast at failed
    split at failed
    · next result checked last =>
      obtain rfl : result = .error e := failed
      obtain ⟨call, data, found⟩ := finding_of_check last
      exact .raised call data found
    · exact ends_of_expire failed

theorem ends_of_run [Clock] {wait : Wait} {around : Surroundings σ ε ρ}
    {events : List (Scheduled ε)} {s : σ} {e : Error} (bounded : wait.timeout.isTooLarge = false)
    (failed : (wait.run around events s).result = .error e) : wait.Ends e := by
  unfold run at failed
  rw [bounded, if_neg Bool.false_ne_true] at failed
  exact ends_of_proceed (le_refl 0) failed

/-! ### What a wait returns -/

/-- What a wait returns was found without a mismatch by a call of its predicate, in time. -/
def Finds (wait : Wait) (w : Watch σ ρ) (data : Data) : Prop :=
  (∃ call, wait.finding call data = .ok none) ∧ w.now ≤ max 0 wait.deadline

theorem data_of_check {wait : Wait} {around : Surroundings σ ε ρ} {w later : Watch σ ρ}
    {data : Data} (called : wait.check around w = (some (.ok data), later)) :
    ∃ call, wait.finding call data = .ok none := by
  rw [check_eq wait around w rfl] at called
  cases found : wait.finding w.seen.length (around.buffer w.state).snapshot with
  | error e =>
    rw [found] at called
    cases called
  | ok detail =>
    rw [found] at called
    cases detail with
    | none =>
      cases called
      exact ⟨_, found⟩
    | some m => cases called

theorem now_sleep {around : Surroundings σ ε ρ} {deadline : Rat} {events : List (Scheduled ε)}
    {w : Watch σ ρ} (inTime : w.now ≤ max 0 deadline) :
    (sleep around deadline events w).2.2.now ≤ max 0 deadline := by
  induction events generalizing w with
  | nil => exact le_max_right ..
  | cons e rest ih =>
    unfold sleep
    split
    · next due =>
      have later : (take around e w).now ≤ max 0 deadline := by
        unfold take
        dsimp only
        split
        · exact le_max_of_le_right due
        · exact inTime
      dsimp only
      split
      · exact later
      · exact ih later
    · exact le_max_right ..

theorem finds_of_proceed [Clock] {wait : Wait} {around : Surroundings σ ε ρ}
    {events : List (Scheduled ε)} {w : Watch σ ρ} {data : Data}
    (inTime : w.now ≤ max 0 wait.deadline)
    (returned : (wait.proceed around events w).result = .ok data) :
    wait.Finds (wait.proceed around events w).watch data := by
  -- Only a check returns data: in the first case, or as the last one when the time is up.
  have found {w later : Watch σ ρ} {result : Except Error Data}
      (inTime : w.now ≤ max 0 wait.deadline)
      (called : wait.check around w = (some result, later)) (same : result = .ok data) :
      wait.Finds later data := by
    have clock := now_check wait around w
    rw [called] at clock
    exact ⟨data_of_check (same ▸ called), clock ▸ inTime⟩
  have expired {w : Watch σ ρ} (none : (wait.expire around w).result = .ok data) : False := by
    unfold expire at none
    cases none
  fun_induction proceed wait around events w with
  | case1 events w result checked called => exact found inTime called returned
  | case2 events w failed called late => exact (expired returned).elim
  | case3 events w failed called going tooLong => cases returned
  | case4 events w failed called going allowed settled noted ih =>
    apply ih _ returned
    have clock := now_check wait around w
    rw [called] at clock
    exact clock ▸ inTime
  | case5 events w failed called going allowed settled quiet rest woken slept ih =>
    apply ih _ returned
    have clock := now_check wait around w
    rw [called] at clock
    have later : (sleep around wait.deadline events settled).2.2.now ≤ max 0 wait.deadline :=
      now_sleep (clock ▸ inTime)
    rw [slept] at later
    exact later
  | case6 events w failed called going allowed settled quiet rest woken slept =>
    have clock := now_check wait around w
    rw [called] at clock
    have later : (sleep around wait.deadline events settled).2.2.now ≤ max 0 wait.deadline :=
      now_sleep (clock ▸ inTime)
    rw [slept] at later
    unfold checkLast at returned ⊢
    split
    · next last =>
      rw [last] at returned
      exact found later last returned
    · next last =>
      rw [last] at returned
      exact (expired returned).elim

theorem finds_of_run [Clock] {wait : Wait} {around : Surroundings σ ε ρ}
    {events : List (Scheduled ε)} {s : σ} {data : Data}
    (returned : (wait.run around events s).result = .ok data) :
    wait.Finds (wait.run around events s).watch data := by
  unfold run at returned ⊢
  split at returned
  · cases returned
  · next bounded =>
    rw [if_neg bounded]
    exact finds_of_proceed (le_max_left ..) returned

end Wait

namespace Operator

theorem read_name (operator : Operator) : read operator.name = .ok operator := by
  cases operator <;> rfl

/-- Only matching a pattern can fail. -/
theorem matching_of_error {operator : Operator} {observed expected : Data} {e : Error}
    (failed : operator.compare observed expected = .error e) : operator = .matching := by
  by_contra other
  have answers : ∃ b, operator.holds observed (expected.alongside observed) = .ok b := by
    cases operator with
    | matching => exact absurd rfl other
    | _ => exact ⟨_, rfl⟩
  obtain ⟨b, answers⟩ := answers
  unfold compare at failed
  dsimp only at failed
  rw [answers] at failed
  cases b with
  | false => cases failed
  | true => cases failed

end Operator

theorem Verdict.raised_of_judge {data : Data} {e e' : Error}
    (raised : (Verdict.raised e').judge data = .error e) : e' = e := by
  cases e' with
  | expectation m => cases raised
  | fault f =>
    unfold judge at raised
    dsimp only at raised
    split at raised
    · cases raised
    · cases raised
      rfl
  | _ =>
    cases raised
    rfl

theorem Operator.make_name (operator : Operator) (expected : Data) :
    Predicate.make (.operator operator.name expected)
      = .ok (.ofRule (.operator operator.name expected)) := by
  unfold Predicate.make Rule.check
  rw [read_name]
  rfl

theorem Operator.call_name (operator : Operator) (expected data : Data) (call : Nat) :
    Predicate.ofRule (.operator operator.name expected) call data
      = .ofComparison (operator.compare data expected) := by
  unfold Predicate.ofRule Rule.call AcceptanceBench.compare
  rw [read_name]
  rfl

theorem Operator.compare_of_judge {operator : Operator} {expected : Data} {call : Nat} {data : Data}
    {e : Error}
    (raised : (Predicate.ofRule (.operator operator.name expected) call data).judge data
      = .error e) : operator.compare data expected = .error e := by
  rw [call_name] at raised
  cases compared : operator.compare data expected with
  | ok outcome =>
    rw [compared] at raised
    cases outcome <;> cases raised
  | error e' =>
    rw [compared] at raised
    rw [Verdict.raised_of_judge raised]

theorem error_of_replyWith {α : Type} {reply : α → Reply} {result : Except Error α} {e : Error}
    (failed : replyWith reply result = .error e) : result = .error e := by
  cases result with
  | ok a => cases failed
  | error e' =>
    cases failed
    rfl

namespace Registry

variable {ε : Type} {g : Registry}

/-- A wait on a channel fails with an error of the bench, or because the clock cannot sleep for the
time limit, or with what its predicate raises. -/
theorem waitFor_failed [Clock] {act : ε → Registry → Except Error Reply × Registry}
    {predicate : Predicate} {wait : ChannelWait} {events : List (Scheduled ε)} {e : Error}
    (bounded : wait.timeout.isTooLarge = false)
    (failed : (g.waitFor act (.ok predicate) (some wait) events).result = .error e) :
    e.isBench = true ∨ (e = .sleepTooLong ∧ Clock.refuses wait.timeout.value = true)
      ∨ ∃ call data, (predicate call data).judge data = .error e := by
  unfold waitFor waitOnChannel at failed
  dsimp only [id] at failed
  cases active : g.active wait.name with
  | error e' =>
    rw [active] at failed
    cases failed
    exact Or.inl (isBench_of_active active)
  | ok c =>
    rw [active] at failed
    rcases Wait.ends_of_run bounded (error_of_replyWith failed) with
      bench | ⟨asked, tooLong⟩ | ⟨call, data, found⟩
    · exact Or.inl bench
    · exact Or.inr (Or.inl ⟨tooLong, (Wait.isRefused_iff.mp asked).2⟩)
    · exact Or.inr (Or.inr ⟨call, data, found⟩)

/-- What the predicate raises on the data at the beginning ends the wait on a channel, and leaves
all as it is. -/
theorem waitFor_raises [Clock] {act : ε → Registry → Except Error Reply × Registry}
    {predicate : Predicate} {wait : ChannelWait} {events : List (Scheduled ε)} {c : Channel}
    {e : Error} (bounded : wait.timeout.isTooLarge = false) (active : g.active wait.name = .ok c)
    (raised : (predicate 0 (g.bench.buffer c.buffer).snapshot).judge
      (g.bench.buffer c.buffer).snapshot = .error e) :
    (g.waitFor act (.ok predicate) (some wait) events).result = .error e
      ∧ (g.waitFor act (.ok predicate) (some wait) events).after = g := by
  unfold waitFor waitOnChannel
  dsimp only [id]
  rw [active]
  dsimp only
  rw [Wait.run_of_finding (e := e)]
  · exact ⟨rfl, rfl⟩
  · exact bounded
  · exact raised

/-- Where the first call fails and the clock cannot sleep for the time limit, the wait on a channel
is over, and leaves all as it is. -/
theorem waitFor_refused [Clock] {act : ε → Registry → Except Error Reply × Registry}
    {predicate : Predicate} (wait : ChannelWait) {events : List (Scheduled ε)} {c : Channel}
    {m : Mismatch} (bounded : wait.timeout.isTooLarge = false)
    (active : g.active wait.name = .ok c) (positive : 0 < wait.timeout.value)
    (tooLong : Clock.refuses wait.timeout.value = true)
    (failed : (predicate 0 (g.bench.buffer c.buffer).snapshot).judge
      (g.bench.buffer c.buffer).snapshot = .ok (some m)) :
    (g.waitFor act (.ok predicate) (some wait) events).result = .error .sleepTooLong
      ∧ (g.waitFor act (.ok predicate) (some wait) events).after = g := by
  unfold waitFor waitOnChannel
  dsimp only [id]
  rw [active]
  dsimp only
  obtain ⟨m', -, run⟩ := Wait.run_of_refused
    ⟨(g.bench.buffer c.buffer).name, wait.timeout, predicate⟩
    (.ofBench (fun g : Registry => g.bench) (fun b g => { g with bench := b }) (fun _ _ => rfl)
      c.buffer (fun e g => let answer := Answer.ofAct act e g; (answer, answer.after))) g bounded
    rfl ⟨Wait.isRefused_iff.mpr ⟨positive, tooLong⟩, m, failed⟩ events
  rw [run]
  unfold Watch.remember
  split
  · exact ⟨rfl, rfl⟩
  · exact ⟨rfl, rfl⟩

end Registry

end AcceptanceBench
