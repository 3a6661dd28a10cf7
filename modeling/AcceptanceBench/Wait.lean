import AcceptanceBench.Buffer
import AcceptanceBench.Clock
import AcceptanceBench.Notice
import AcceptanceBench.Predicate

/-!
Waiting on a buffer until a predicate holds. The predicate is called on everything received so far:
at the start, after every notification, and once more when the time is up. Time passes only from one
scheduled event to the next; between events the surroundings settle, which may fill the buffer. What
is left of the time limit has to be a sleep that the clock does not refuse.

A wait ends because each turn of it either takes an event off the schedule or leaves less for the
surroundings to deliver.
-/

namespace AcceptanceBench

/-- An event, at a time counted from the start of a wait. -/
structure Scheduled (ε : Type) where
  time : Rat
  event : ε

/-- Events in the order of their times; events of the same time keep their order. -/
def schedule {ε : Type} (events : List (Scheduled ε)) : List (Scheduled ε) :=
  events.mergeSort fun a b => a.time ≤ b.time

/-- What goes on around a wait: the buffer in a state, settling, the effect of an event together
with its answer, and how much is left to be delivered. Settling that notifies leaves less. -/
structure Surroundings (σ ε ρ : Type) where
  buffer : σ → Buffer
  settle : σ → σ
  happen : ε → σ → ρ × σ
  backlog : σ → Nat
  settle_lt : ∀ s, (buffer (settle s)).signals ≠ (buffer s).signals → backlog (settle s) < backlog s

/-- A wait under way: the time since its start, the surroundings, the latest detail of a failed
check, what the predicate was called with, and the answers of the events that happened. -/
structure Watch (σ ρ : Type) where
  now : Rat
  state : σ
  detail : Option Mismatch
  seen : List Data
  happened : List ρ

namespace Watch

variable {σ ρ : Type}

/-- The beginning of a wait. -/
def start (s : σ) : Watch σ ρ := ⟨0, s, none, [], []⟩

/-- The wait after the predicate was called on some data. -/
def called (w : Watch σ ρ) (data : Data) : Watch σ ρ :=
  { w with seen := w.seen ++ [data] }

/-- The wait with a mismatch remembered, if it gives a detail. -/
def remember (w : Watch σ ρ) (m : Mismatch) : Watch σ ρ :=
  if m.operator = "" then w else { w with detail := some m }

end Watch

/-- How a wait ended, the wait itself at that moment, and what it leaves in the log. -/
structure Waited (σ ρ : Type) where
  result : Except Error Data
  watch : Watch σ ρ
  notices : List Notice

/-- A wait as it is asked for: the name of the buffer, the time limit as given, and the predicate.
-/
structure Wait where
  name : String
  timeout : Numeral
  predicate : Predicate

namespace Wait

variable {σ ε ρ : Type}

/-- The time at which the wait is over. -/
def deadline (wait : Wait) : Rat := wait.timeout.value

/-- The end of a wait without a match: the latest detail, or the data of the last call. It is
reported in the log. -/
def expire (wait : Wait) (around : Surroundings σ ε ρ) (w : Watch σ ρ) : Waited σ ρ :=
  let e := match w.detail with
    | some m => .lastMismatch wait.name w.now m
    | none => .noMatch wait.name wait.timeout (around.buffer w.state).snapshot
  ⟨.error e, w, [.waitFailed e]⟩

/-- Calls the predicate on what the buffer holds. The result is there if the wait is over; otherwise
the mismatch is remembered. -/
def check (wait : Wait) (around : Surroundings σ ε ρ) (w : Watch σ ρ) :
    Option (Except Error Data) × Watch σ ρ :=
  let data := (around.buffer w.state).snapshot
  let called := w.called data
  match (wait.predicate w.seen.length data).judge data with
  | .error e => (some (.error e), called)
  | .ok none => (some (.ok data), called)
  | .ok (some m) => (none, called.remember m)

/-- The last call of the predicate, when the time is up. -/
def checkLast (wait : Wait) (around : Surroundings σ ε ρ) (w : Watch σ ρ) : Waited σ ρ :=
  match wait.check around w with
  | (some result, w) => ⟨result, w, []⟩
  | (none, w) => wait.expire around w

/-- The wait after an event: the clock moves to its time but never back, the event happens, and the
surroundings settle. -/
def take (around : Surroundings σ ε ρ) (e : Scheduled ε) (w : Watch σ ρ) : Watch σ ρ :=
  let (answer, state) := around.happen e.event w.state
  { w with
    now := if w.now ≤ e.time then e.time else w.now
    state := around.settle state
    happened := w.happened ++ [answer] }

/-- Whether the buffer was notified between two moments. -/
def notified (around : Surroundings σ ε ρ) (before after : σ) : Bool :=
  (around.buffer after).signals != (around.buffer before).signals

/-- Takes events off the schedule up to the deadline until one notifies the buffer. Without one the
time is up, and no event is left. -/
def sleep (around : Surroundings σ ε ρ) (deadline : Rat) :
    List (Scheduled ε) → Watch σ ρ → Bool × List (Scheduled ε) × Watch σ ρ
  | [], w => (false, [], { w with now := deadline })
  | e :: rest, w =>
    if e.time ≤ deadline then
      let later := take around e w
      if notified around w.state later.state then (true, rest, later)
      else sleep around deadline rest later
    else (false, [], { w with now := deadline })

/-- A notification takes at least one event off the schedule. -/
theorem length_sleep_lt (around : Surroundings σ ε ρ) (deadline : Rat)
    (events : List (Scheduled ε)) (w : Watch σ ρ)
    (h : (sleep around deadline events w).1 = true) :
    (sleep around deadline events w).2.1.length < events.length := by
  induction events generalizing w with
  | nil => simp [sleep] at h
  | cons e rest ih =>
    by_cases hle : e.time ≤ deadline
    · by_cases hn : notified around w.state (take around e w).state
      · simp [sleep, hle, hn]
      · simp only [sleep, hle, hn, if_true] at h ⊢
        exact Nat.lt_succ_of_lt (ih _ h)
    · simp [sleep, hle] at h

section Clocked

variable [Clock]

/-- The wait from a call of the predicate on. What is left of the time limit is slept for in one
piece; a sleep that the clock refuses ends the wait at once, before anything else happens. -/
def proceed (wait : Wait) (around : Surroundings σ ε ρ) (events : List (Scheduled ε))
    (w : Watch σ ρ) : Waited σ ρ :=
  match wait.check around w with
  | (some result, w) => ⟨result, w, []⟩
  | (none, failed) =>
    if wait.deadline ≤ w.now then wait.expire around failed
    else if Clock.refuses (wait.deadline - w.now) then ⟨.error .sleepTooLong, failed, []⟩
    else
      let settled := { failed with state := around.settle w.state }
      if _hn : notified around w.state settled.state then wait.proceed around events settled
      else
        match _hs : sleep around wait.deadline events settled with
        | (true, rest, woken) => wait.proceed around rest woken
        | (false, _, woken) => wait.checkLast around woken
termination_by (events.length, around.backlog w.state)
decreasing_by
  · apply Prod.Lex.right
    exact around.settle_lt w.state (by simpa [notified, settled] using _hn)
  · apply Prod.Lex.left
    have := length_sleep_lt around wait.deadline events settled (by rw [_hs])
    rwa [_hs] at this

/-- The whole wait. Events that it does not take are dropped. A wait whose end cannot be computed
does not begin. -/
def run (wait : Wait) (around : Surroundings σ ε ρ) (events : List (Scheduled ε)) (s : σ) :
    Waited σ ρ :=
  if wait.timeout.isTooLarge then ⟨.error .numberTooLarge, .start s, []⟩
  else wait.proceed around (schedule events) (.start s)

end Clocked

end Wait

end AcceptanceBench
