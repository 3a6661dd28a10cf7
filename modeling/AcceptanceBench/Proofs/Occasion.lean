import AcceptanceBench.Step.Buffer
import Mathlib.Algebra.Order.Ring.Rat
import Mathlib.Data.List.Sort

/-!
The occasions on which a wait on a buffer may call its predicate, read off the schedule alone: the
start, every event up to the deadline that notifies, and the deadline itself unless an event has
woken the wait there. What the buffer holds on an occasion follows from the acts before it.
-/

namespace AcceptanceBench

namespace BufferAct

/-- Whether an act notifies whoever waits on the buffer. -/
def notifies : BufferAct → Bool
  | .append _ | .notify => true
  | .reset | .snapshot | .refused => false

/-- What a buffer of some bytes holds after an act. -/
def apply (held : Bytes) : BufferAct → Bytes
  | .append data => held ++ data.toBytes
  | .reset => []
  | .snapshot | .notify | .refused => held

end BufferAct

/-- What a buffer that held `initial` holds after some acts. -/
def contentAfter (initial : Bytes) (acts : List BufferAct) : Bytes :=
  acts.foldl BufferAct.apply initial

/-- An occasion to call a predicate: the time since the start, and the acts that came before. -/
structure Occasion where
  time : Rat
  past : List BufferAct

/-- What the predicate is called with on an occasion, if the buffer held `initial` at the start. -/
def Occasion.data (initial : Bytes) (o : Occasion) : Data :=
  .received (contentAfter initial o.past)

/-- The events that are due by a deadline. -/
def dueBy (deadline : Rat) (events : List (Scheduled BufferAct)) : List (Scheduled BufferAct) :=
  events.filter (·.time ≤ deadline)

/-- The occasions that events in the order of their times give: one after each that notifies. -/
def wakings (past : List BufferAct) : List (Scheduled BufferAct) → List Occasion
  | [] => []
  | e :: rest =>
    if e.event.notifies then ⟨max 0 e.time, past ++ [e.event]⟩ :: wakings (past ++ [e.event]) rest
    else wakings (past ++ [e.event]) rest

/-- Occasions up to the first one at the deadline or later, which is the last to count. -/
def throughDeadline (deadline : Rat) : List Occasion → List Occasion
  | [] => []
  | o :: rest => if deadline ≤ o.time then [o] else o :: throughDeadline deadline rest

/-- The occasions of a wait from one of them on, with the events that come after it in the order of
their times. -/
def occasionsFrom (deadline : Rat) (first : Occasion) (coming : List (Scheduled BufferAct)) :
    List Occasion :=
  let due := dueBy deadline coming
  throughDeadline deadline
    (first :: wakings first.past due ++ [⟨deadline, first.past ++ due.map (·.event)⟩])

/-- All occasions of a wait. -/
def occasions (deadline : Rat) (events : List (Scheduled BufferAct)) : List Occasion :=
  occasionsFrom deadline ⟨0, []⟩ (schedule events)

/-- An event at the deadline is still an occasion, and then the last one; a reset is none. -/
example :
    occasions 1 [⟨2, .append (.text "late")⟩, ⟨1, .append (.text "OK")⟩, ⟨1 / 2, .notify⟩,
        ⟨3 / 4, .reset⟩]
      = [⟨0, []⟩, ⟨1 / 2, [.notify]⟩, ⟨1, [.notify, .reset, .append (.text "OK")]⟩] := by
  cbv

/-- The first occasion always counts. -/
theorem occasionsFrom_head (deadline : Rat) (first : Occasion)
    (coming : List (Scheduled BufferAct)) :
    (occasionsFrom deadline first coming)[0]? = some first := by
  simp only [occasionsFrom, List.cons_append, throughDeadline]
  split <;> rfl

/-- At the deadline or later an occasion is the last one. -/
theorem occasionsFrom_of_le {deadline : Rat} {first : Occasion} (late : deadline ≤ first.time)
    (coming : List (Scheduled BufferAct)) : occasionsFrom deadline first coming = [first] :=
  if_pos late

theorem tail_occasionsFrom {deadline : Rat} {first : Occasion} (early : ¬ deadline ≤ first.time)
    (coming : List (Scheduled BufferAct)) :
    (occasionsFrom deadline first coming).tail =
      throughDeadline deadline (wakings first.past (dueBy deadline coming)
        ++ [⟨deadline, first.past ++ (dueBy deadline coming).map (·.event)⟩]) := by
  simp only [occasionsFrom, List.cons_append, throughDeadline, early, if_false, List.tail_cons]

theorem contentAfter_append (initial : Bytes) (past : List BufferAct) (act : BufferAct) :
    contentAfter initial (past ++ [act]) = act.apply (contentAfter initial past) := by
  simp [contentAfter]

/-- An act changes the bytes of the buffer as its rule says. -/
theorem BufferBench.data_happen (act : BufferAct) (s : BufferBench) :
    (surroundings.happen act s).2.buffer.data = act.apply s.buffer.data := by
  cases act <;> rfl

/-- The count of signals shows exactly the acts that notify. -/
theorem BufferBench.notified_happen (act : BufferAct) (s : BufferBench) :
    Wait.notified surroundings s (surroundings.happen act s).2 = act.notifies := by
  cases act with
  | append data => exact bne_iff_ne.mpr (Nat.succ_ne_self _)
  | notify => exact bne_iff_ne.mpr (Nat.succ_ne_self _)
  | reset => exact bne_self_eq_false _
  | snapshot => exact bne_self_eq_false _
  | refused => exact bne_self_eq_false _

theorem Scheduled.time_le_trans {ε : Type} (a b c : Scheduled ε)
    (earlier : decide (a.time ≤ b.time)) (later : decide (b.time ≤ c.time)) :
    decide (a.time ≤ c.time) := by
  rw [decide_eq_true_eq] at earlier later ⊢
  exact earlier.trans later

theorem Scheduled.time_le_total {ε : Type} (a b : Scheduled ε) :
    decide (a.time ≤ b.time) || decide (b.time ≤ a.time) := by
  rw [Bool.or_eq_true, decide_eq_true_eq, decide_eq_true_eq]
  exact Rat.le_total

/-- A schedule puts events in the order of their times. -/
theorem schedule_sorted {ε : Type} (events : List (Scheduled ε)) :
    (schedule events).Pairwise fun a b => a.time ≤ b.time :=
  (List.pairwise_mergeSort Scheduled.time_le_trans Scheduled.time_le_total events).imp
    of_decide_eq_true

theorem dueBy_cons_of_le {deadline : Rat} {e : Scheduled BufferAct} (h : e.time ≤ deadline)
    (rest : List (Scheduled BufferAct)) : dueBy deadline (e :: rest) = e :: dueBy deadline rest :=
  List.filter_cons_of_pos (decide_eq_true h)

/-- After an event past the deadline no other one in the order of times is due. -/
theorem dueBy_eq_nil {deadline : Rat} {e : Scheduled BufferAct} {rest : List (Scheduled BufferAct)}
    (late : deadline < e.time) (sorted : ∀ later ∈ rest, e.time ≤ later.time) :
    dueBy deadline (e :: rest) = [] := by
  apply List.filter_eq_nil_iff.mpr
  intro later member
  rw [decide_eq_true_eq, not_le]
  rcases List.mem_cons.mp member with rfl | member
  · exact late
  · exact lt_of_lt_of_le late (sorted later member)

end AcceptanceBench
