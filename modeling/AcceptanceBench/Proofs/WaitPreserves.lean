import AcceptanceBench.Wait

/-!
What a wait preserves. A wait changes its surroundings only by letting them settle and by events, so
what these preserve still holds when the wait ends.
-/

namespace AcceptanceBench

variable {σ ε ρ : Type}

/-- Surroundings whose settling and whose events preserve a property of the answers that events have
given so far and of the state. -/
structure Surroundings.Preserves (around : Surroundings σ ε ρ) (holds : List ρ → σ → Prop) :
    Prop where
  settle : ∀ past s, holds past s → holds past (around.settle s)
  happen : ∀ past e s, holds past s →
    holds (past ++ [(around.happen e s).1]) (around.happen e s).2

/-- The property holds at a point of a wait. -/
def Watch.Holds (holds : List ρ → σ → Prop) (w : Watch σ ρ) : Prop :=
  holds w.happened w.state

namespace Wait

variable {around : Surroundings σ ε ρ} {holds : List ρ → σ → Prop} {w : Watch σ ρ}

/-- Calling the predicate changes nothing around the wait. -/
theorem same_check (wait : Wait) (around : Surroundings σ ε ρ) (w : Watch σ ρ) :
    (wait.check around w).2.state = w.state ∧ (wait.check around w).2.happened = w.happened := by
  unfold check
  dsimp only
  split
  · exact ⟨rfl, rfl⟩
  · exact ⟨rfl, rfl⟩
  · unfold Watch.remember
    split
    · exact ⟨rfl, rfl⟩
    · exact ⟨rfl, rfl⟩

theorem holds_check {wait : Wait} {result : Option (Except Error Data)} {later : Watch σ ρ}
    (called : wait.check around w = (result, later)) (before : w.Holds holds) :
    later.Holds holds := by
  obtain ⟨state, happened⟩ := same_check wait around w
  rw [called] at state happened
  rwa [Watch.Holds, state, happened]

theorem holds_settle (preserves : around.Preserves holds) {wait : Wait}
    {result : Option (Except Error Data)} {later : Watch σ ρ}
    (called : wait.check around w = (result, later)) (before : w.Holds holds) :
    Watch.Holds holds { later with state := around.settle w.state } := by
  obtain ⟨-, happened⟩ := same_check wait around w
  rw [called] at happened
  rw [Watch.Holds, happened]
  exact preserves.settle _ _ before

theorem holds_take (preserves : around.Preserves holds) (e : Scheduled ε) (before : w.Holds holds) :
    (take around e w).Holds holds :=
  preserves.settle _ _ (preserves.happen _ e.event _ before)

theorem holds_sleep (preserves : around.Preserves holds) (deadline : Rat)
    (events : List (Scheduled ε)) (before : w.Holds holds) :
    (sleep around deadline events w).2.2.Holds holds := by
  induction events generalizing w with
  | nil => exact before
  | cons e rest ih =>
    have taken := holds_take preserves e before
    unfold sleep
    split
    · dsimp only
      split
      · exact taken
      · exact ih taken
    · exact before

theorem holds_checkLast (wait : Wait) (before : w.Holds holds) :
    (wait.checkLast around w).watch.Holds holds := by
  unfold checkLast
  split
  · rename_i called
    exact holds_check called before
  · rename_i called
    exact holds_check called before

/-- A wait from a call of the predicate on, without what tells that it ends. -/
theorem proceed_eq [Clock] (wait : Wait) (around : Surroundings σ ε ρ) (events : List (Scheduled ε))
    (w : Watch σ ρ) :
    wait.proceed around events w =
      match wait.check around w with
      | (some result, w) => ⟨result, w, []⟩
      | (none, failed) =>
        if wait.deadline ≤ w.now then wait.expire around failed
        else if Clock.refuses (wait.deadline - w.now) then ⟨.error .sleepTooLong, failed, []⟩
        else
          let settled := { failed with state := around.settle w.state }
          if notified around w.state settled.state then wait.proceed around events settled
          else
            match sleep around wait.deadline events settled with
            | (true, rest, woken) => wait.proceed around rest woken
            | (false, _, woken) => wait.checkLast around woken := by
  rw [proceed]
  rcases wait.check around w with ⟨_ | result, failed⟩
  · dsimp only
    split
    · rfl
    · split
      · rfl
      · split
        · rfl
        · rcases sleep around wait.deadline events { failed with state := around.settle w.state }
            with ⟨_ | _, rest, woken⟩ <;> rfl
  · rfl

theorem holds_proceed [Clock] (preserves : around.Preserves holds) (wait : Wait)
    (events : List (Scheduled ε)) (before : w.Holds holds) :
    (wait.proceed around events w).watch.Holds holds := by
  fun_induction proceed wait around events w with
  | case1 events w result checked called => exact holds_check called before
  | case2 events w failed called late => exact holds_check called before
  | case3 events w failed called going refused => exact holds_check called before
  | case4 events w failed called going allowed settled noted ih =>
    exact ih (holds_settle preserves called before)
  | case5 events w failed called going allowed settled quiet rest woken slept ih =>
    have after := holds_sleep preserves wait.deadline events (holds_settle preserves called before)
    rw [show sleep around wait.deadline events _ = _ from slept] at after
    exact ih after
  | case6 events w failed called going allowed settled quiet rest woken slept =>
    have after := holds_sleep preserves wait.deadline events (holds_settle preserves called before)
    rw [show sleep around wait.deadline events _ = _ from slept] at after
    exact holds_checkLast wait after

/-- What settling and events preserve holds when a wait ends. -/
theorem holds_run [Clock] (preserves : around.Preserves holds) (wait : Wait)
    (events : List (Scheduled ε)) {s : σ} (before : holds [] s) :
    (wait.run around events s).watch.Holds holds := by
  unfold run
  split
  · exact before
  · exact holds_proceed preserves wait (schedule events) before

end Wait

end AcceptanceBench
