/-!
Totals: what the members of a list weigh together.
-/

namespace AcceptanceBench

variable {α : Type}

/-- The weights of all members, added up. -/
def total (weight : α → Nat) : List α → Nat
  | [] => 0
  | a :: rest => weight a + total weight rest

@[simp] theorem total_nil (weight : α → Nat) : total weight [] = 0 := rfl

@[simp] theorem total_cons (weight : α → Nat) (a : α) (rest : List α) :
    total weight (a :: rest) = weight a + total weight rest := rfl

end AcceptanceBench
