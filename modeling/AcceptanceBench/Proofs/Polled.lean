import AcceptanceBench.Proofs.Attendance

/-!
What polling drops, where listeners do nothing but raise faults: just the subscriptions whose own
reading failed. The thread goes on.
-/

namespace AcceptanceBench

/-- Whether a reading raised an error. -/
def Reading.failed (r : Reading) : Bool :=
  match r.outcome with
  | .ok _ => false
  | .error _ => true

namespace Bench

variable {b b' : Bench}

/-- Readings were made for some subscriptions, and those whose reading failed were dropped. -/
structure Polled (among : List Subscription) (more : List Reading) (b b' : Bench) : Prop where
  readings : b'.readings = b.readings ++ more
  asked : ∀ r ∈ more, r.subscription ∈ among
  left : b'.scheduler = { b.scheduler with
    subscriptions := b.scheduler.subscriptions.filter fun s =>
      !more.any fun r => r.failed && r.subscription.id == s.id }

theorem polled_none (among : List Subscription) (b : Bench) : Polled among [] b b := by
  refine ⟨(List.append_nil _).symm, by simp, ?_⟩
  simp

theorem Polled.trans {among : List Subscription} {first second : List Reading} {b₁ b₂ b₃ : Bench}
    (h₁ : Polled among first b₁ b₂) (h₂ : Polled among second b₂ b₃) :
    Polled among (first ++ second) b₁ b₃ := by
  refine ⟨by rw [h₂.readings, h₁.readings, List.append_assoc], fun r read => ?_, ?_⟩
  · rcases List.mem_append.mp read with early | late
    · exact h₁.asked r early
    · exact h₂.asked r late
  · rw [h₂.left, h₁.left]
    simp only [List.filter_filter, List.any_append, Bool.not_or, Bool.and_comm]

theorem Polled.mono {few many : List Subscription} {more : List Reading}
    (polled : Polled few more b b') (some : few ⊆ many) : Polled many more b b' :=
  ⟨polled.readings, fun r read => some (polled.asked r read), polled.left⟩

theorem Polled.subset {among : List Subscription} {more : List Reading}
    (polled : Polled among more b b') :
    b'.scheduler.subscriptions ⊆ b.scheduler.subscriptions := by
  rw [polled.left]
  exact List.filter_subset_self _

/-- Serving a subscription drops it if its reading fails. -/
theorem polled_serve (mild : b.Mild) (s : Subscription) :
    ∃ more, Polled [s] more b (b.serve s).2 := by
  have attends := attends_serve mild s
  refine ⟨_, attends.readings, by simp, ?_⟩
  rcases attends.scheduler with ⟨⟨bytes, read⟩, same⟩ | ⟨⟨e, read⟩, removed⟩
  · rw [same, read]
    simp [Reading.failed]
  · rw [removed, read, Scheduler.remove]
    simp [Reading.failed, bne, Bool.beq_comm]

theorem polled_serveAll {l : List Subscription} (mild : b.Mild) :
    ∃ more, Polled l more b (serveAll l b).2 := by
  induction l generalizing b with
  | nil => exact ⟨[], polled_none [] b⟩
  | cons s rest ih =>
    obtain ⟨first, served⟩ := polled_serve mild s
    obtain ⟨later, polled⟩ := ih (attends_serve mild s).mild
    exact ⟨first ++ later, (served.mono (by simp)).trans (polled.mono (by simp))⟩

/-- Running until idle drops the subscriptions whose readings failed, and the thread goes on. -/
theorem polled_settle (mild : b.Mild) (going : b.scheduler.stopRequested = false) :
    ∃ more, Polled b.scheduler.subscriptions more b b.settle := by
  fun_induction Bench.settle b with
  | case1 b _ asked => exact absurd asked (going ▸ Bool.false_ne_true)
  | case2 b _ _ later round ih =>
    obtain ⟨first, polled⟩ := polled_serveAll (l := b.scheduler.subscriptions) mild
    have mild' := mild_serveAll (l := b.scheduler.subscriptions) mild
    rw [← Bench.round, round] at polled mild'
    have going' : later.scheduler.stopRequested = false := by rw [polled.left]; exact going
    obtain ⟨more, polled'⟩ := ih mild' going'
    exact ⟨first ++ more, polled.trans (polled'.mono polled.subset)⟩
  | case3 b _ _ later round =>
    have polled := polled_serveAll (l := b.scheduler.subscriptions) mild
    rw [← Bench.round, round] at polled
    exact polled
  | case4 b => exact ⟨[], polled_none _ b⟩

/-- Where ids are distinct, the subscriptions that were dropped are those with a failed reading. -/
theorem Polled.dropped_iff {more : List Reading}
    (polled : Polled b.scheduler.subscriptions more b b')
    (distinct : (b.scheduler.subscriptions.map (·.id)).Nodup) {s : Subscription}
    (there : s ∈ b.scheduler.subscriptions) :
    s ∉ b'.scheduler.subscriptions ↔ ∃ e, ⟨s, .error e⟩ ∈ b'.readings.drop b.readings.length := by
  rw [polled.left, polled.readings, List.drop_left, List.mem_filter]
  simp only [there, true_and, Bool.not_eq_true', Bool.not_eq_false, List.any_eq_true,
    Bool.and_eq_true, beq_iff_eq]
  constructor
  · rintro ⟨⟨t, outcome⟩, read, failed, same⟩
    obtain rfl := List.inj_on_of_nodup_map distinct (polled.asked _ read) there same
    cases outcome with
    | ok bytes => cases failed
    | error e => exact ⟨e, read⟩
  · rintro ⟨e, read⟩
    exact ⟨_, read, rfl, rfl⟩

/-- Polling drops a subscription if and only if its own reading failed, and does not end the
thread, whatever listeners raise. -/
theorem polling_drops (reached : Moment.Reached ⟨b, []⟩) (mild : b.Mild) :
    (∀ s ∈ b.scheduler.subscriptions, s ∉ b.settle.scheduler.subscriptions
        ↔ ∃ e, ⟨s, .error e⟩ ∈ b.settle.readings.drop b.readings.length)
      ∧ (b.scheduler.stopRequested = false → b.settle.scheduler.thread = b.scheduler.thread) := by
  cases going : b.scheduler.stopRequested with
  | false =>
    obtain ⟨more, polled⟩ := polled_settle mild going
    exact ⟨fun s there => polled.dropped_iff reached.numbered.distinct there,
      fun _ => by rw [polled.left]⟩
  | true =>
    have still : b.settle.scheduler.subscriptions = b.scheduler.subscriptions
        ∧ b.settle.readings = b.readings := by
      rw [Bench.settle, if_pos going]
      split
      · exact ⟨rfl, rfl⟩
      · exact ⟨rfl, rfl⟩
    rw [still.1, still.2, List.drop_length]
    simp

end Bench

end AcceptanceBench
