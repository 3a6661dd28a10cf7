import AcceptanceBench.Proofs.WaitPreserves
import Mathlib.Logic.Relation

/-!
The states that a wait goes through. They follow one another as the surroundings settle and events
happen, and what the predicate is called with is what the buffer shows in one of them.
-/

namespace AcceptanceBench

open Relation (ReflTransGen)

variable {σ ε ρ : Type}

namespace Surroundings

/-- What changes the surroundings of a wait: they settle, or an event happens. -/
inductive Next (around : Surroundings σ ε ρ) : σ → σ → Prop
  | settle (s : σ) : Next around s (around.settle s)
  | happen (e : ε) (s : σ) : Next around s (around.happen e s).2

/-- From one state of the surroundings to another. -/
abbrev Course (around : Surroundings σ ε ρ) : σ → σ → Prop := ReflTransGen around.Next

/-- Somewhere between two states the buffer shows the data. -/
def Shows (around : Surroundings σ ε ρ) (first last : σ) (data : Data) : Prop :=
  ∃ s, around.Course first s ∧ around.Course s last ∧ (around.buffer s).snapshot = data

variable {around : Surroundings σ ε ρ} {first s last : σ} {data : Data}

theorem Shows.onward (shows : around.Shows first s data) (course : around.Course s last) :
    around.Shows first last data := by
  obtain ⟨t, before, after, same⟩ := shows
  exact ⟨t, before, after.trans course, same⟩

end Surroundings

/-- A wait that began in a state has come to a point: its predicate was called with what the buffer
has shown on the way. -/
structure Watch.Since (around : Surroundings σ ε ρ) (first : σ) (w : Watch σ ρ) : Prop where
  course : around.Course first w.state
  seen : ∀ data ∈ w.seen, around.Shows first w.state data

namespace Wait

variable {around : Surroundings σ ε ρ} {first : σ} {w later : Watch σ ρ}

theorem since_onward (since : w.Since around first) (course : around.Course w.state later.state)
    (seen : later.seen = w.seen) : later.Since around first := by
  refine ⟨since.course.trans course, ?_⟩
  intro data there
  rw [seen] at there
  exact (since.seen data there).onward course

/-- A call of the predicate adds what the buffer shows at that moment. -/
theorem since_check {wait : Wait} {result : Option (Except Error Data)}
    (called : wait.check around w = (result, later)) (since : w.Since around first) :
    later.state = w.state ∧ later.Since around first := by
  have state := (same_check wait around w).1
  have seen : (wait.check around w).2.seen = w.seen ++ [(around.buffer w.state).snapshot] := by
    unfold check
    dsimp only
    split
    · rfl
    · rfl
    · unfold Watch.remember
      split <;> rfl
  rw [called] at state seen
  dsimp only at state seen
  refine ⟨state, ?_, ?_⟩
  · rw [state]
    exact since.course
  intro data there
  rw [state]
  rw [seen] at there
  rcases List.mem_append.mp there with old | new
  · exact since.seen data old
  · rw [List.mem_singleton.mp new]
    exact ⟨w.state, since.course, .refl, rfl⟩

theorem since_settle {wait : Wait} {result : Option (Except Error Data)}
    (called : wait.check around w = (result, later)) (since : w.Since around first) :
    Watch.Since around first { later with state := around.settle w.state } := by
  obtain ⟨state, after⟩ := since_check called since
  apply since_onward after
  · rw [state]
    exact .single (.settle w.state)
  · rfl

theorem since_take (e : Scheduled ε) (since : w.Since around first) :
    (take around e w).Since around first := by
  apply since_onward since
  · exact .tail (.single (.happen e.event w.state)) (.settle _)
  · rfl

theorem since_sleep (deadline : Rat) (events : List (Scheduled ε)) (since : w.Since around first) :
    (sleep around deadline events w).2.2.Since around first := by
  induction events generalizing w with
  | nil => exact since_onward since .refl rfl
  | cons e rest ih =>
    have taken := since_take e since
    unfold sleep
    split
    · dsimp only
      split
      · exact taken
      · exact ih taken
    · exact since_onward since .refl rfl

theorem since_checkLast (wait : Wait) (since : w.Since around first) :
    (wait.checkLast around w).watch.Since around first := by
  unfold checkLast
  split
  · next called => exact (since_check called since).2
  · next called => exact (since_check called since).2

theorem since_proceed [Clock] (wait : Wait) (events : List (Scheduled ε))
    (since : w.Since around first) :
    (wait.proceed around events w).watch.Since around first := by
  fun_induction proceed wait around events w with
  | case1 events w result checked called => exact (since_check called since).2
  | case2 events w failed called late => exact (since_check called since).2
  | case3 events w failed called going refused => exact (since_check called since).2
  | case4 events w failed called going allowed settled noted ih =>
    exact ih (since_settle called since)
  | case5 events w failed called going allowed settled quiet rest woken slept ih =>
    have after := since_sleep wait.deadline events (since_settle called since)
    rw [show sleep around wait.deadline events _ = _ from slept] at after
    exact ih after
  | case6 events w failed called going allowed settled quiet rest woken slept =>
    have after := since_sleep wait.deadline events (since_settle called since)
    rw [show sleep around wait.deadline events _ = _ from slept] at after
    exact since_checkLast wait after

/-- A whole wait calls its predicate with what the buffer shows in states that it goes through. -/
theorem since_run [Clock] (wait : Wait) (around : Surroundings σ ε ρ)
    (events : List (Scheduled ε)) (s : σ) :
    (wait.run around events s).watch.Since around s := by
  have begun : (Watch.start s : Watch σ ρ).Since around s := ⟨.refl, fun _ none => nomatch none⟩
  unfold run
  split
  · exact begun
  · exact since_proceed wait (schedule events) begun

end Wait

end AcceptanceBench
