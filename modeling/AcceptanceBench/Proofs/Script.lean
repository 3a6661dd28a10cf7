import AcceptanceBench.Step.Answer
import Mathlib.Data.List.Basic

/-!
Scripts that grow by one step, and what has happened in a script since something else did.
-/

namespace AcceptanceBench

/-- Steps one of which comes last: the answers of the others, and its own on what they leave. -/
theorem runSteps_concat {σ α : Type} (step : α → σ → StepAnswer σ) (past : List α) (a : α) (s : σ) :
    runSteps step (past ++ [a]) s
      = runSteps step past s ++ [step a (past.foldl (fun s a => (step a s).after) s)] := by
  induction past generalizing s with
  | nil => rfl
  | cons first past ih => exact congrArg (step first s :: ·) (ih _)

theorem length_runSteps {σ α : Type} (step : α → σ → StepAnswer σ) (steps : List α) (s : σ) :
    (runSteps step steps s).length = steps.length := by
  induction steps generalizing s with
  | nil => rfl
  | cons a steps ih => exact congrArg (· + 1) (ih _)

/-- What is told of steps and of their answers grows by what is told of the last one. -/
theorem zipWith_runSteps_concat {σ α τ : Type} (tell : α → StepAnswer σ → τ)
    (step : α → σ → StepAnswer σ) (past : List α) (a : α) (s : σ) :
    List.zipWith tell (past ++ [a]) (runSteps step (past ++ [a]) s)
      = List.zipWith tell past (runSteps step past s)
        ++ [tell a (step a (past.foldl (fun s a => (step a s).after) s))] := by
  rw [runSteps_concat, List.zipWith_append (length_runSteps step past s).symm]
  rfl

/-- Something began, and has not been ended since. -/
def Since {α : Type} (begins ends : α → Prop) (past : List α) : Prop :=
  ∃ before a after, past = before ++ a :: after ∧ begins a ∧ ∀ later ∈ after, ¬ ends later

variable {α : Type} {begins ends : α → Prop} {past : List α} {a : α}

theorem not_since_nil : ¬ Since begins ends [] := by
  rintro ⟨before, a, after, split, -⟩
  simp at split

theorem since_concat : Since begins ends (past ++ [a]) ↔
    begins a ∨ ¬ ends a ∧ Since begins ends past := by
  constructor
  · rintro ⟨before, b, after, split, begun, going⟩
    obtain rfl | ⟨after, last, rfl⟩ := after.eq_nil_or_concat
    · obtain ⟨-, rfl⟩ := (List.append_inj' split rfl).imp id List.singleton_inj.mp
      exact Or.inl begun
    · rw [List.concat_eq_append, ← List.cons_append, ← List.append_assoc] at split
      obtain ⟨rfl, rfl⟩ := (List.append_inj' split rfl).imp id List.singleton_inj.mp
      exact Or.inr ⟨going a (by simp), before, b, after, rfl, begun, fun later there =>
        going later (by simp [there])⟩
  · rintro (begun | ⟨goes, before, b, after, rfl, begun, going⟩)
    · exact ⟨past, a, [], rfl, begun, by simp⟩
    · refine ⟨before, b, after ++ [a], by simp, begun, fun later there => ?_⟩
      rcases List.mem_append.mp there with there | there
      · exact going later there
      · rwa [List.mem_singleton.mp there]

end AcceptanceBench
