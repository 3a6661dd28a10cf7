import AcceptanceBench.Proofs.Arrivals
import AcceptanceBench.Proofs.SerialExpect

/-!
What the command that checks the output of a serial port reports. Its stages are gone through in a
fixed order: the channel is opened, written to and waited on, every channel is closed, and the
scheduler is stopped. The command succeeds if and only if no stage fails, and otherwise reports the
one that failed first; a later failure to close is only warned of, and one to stop is not shown.
-/

namespace AcceptanceBench

namespace Registry

variable {ε : Type} {g : Registry}

/-- What a wait on a channel answers was found by its predicate, in time. -/
theorem waitFor_found [Clock] {act : ε → Registry → Except Error Reply × Registry}
    {predicate : Predicate} {wait : ChannelWait} {events : List (Scheduled ε)} {reply : Reply}
    (answered : (g.waitFor act (.ok predicate) (some wait) events).result = .ok reply) :
    ∃ data, reply = .data data ∧ (∃ call, (predicate call data).judge data = .ok none)
      ∧ ∀ waiting ∈ (g.waitFor act (.ok predicate) (some wait) events).waiting,
        waiting.elapsed ≤ max 0 wait.timeout.value := by
  unfold waitFor waitOnChannel at answered ⊢
  dsimp only [id] at answered ⊢
  cases active : g.active wait.name with
  | error e =>
    rw [active] at answered
    cases answered
  | ok c =>
    rw [active] at answered
    dsimp only at answered ⊢
    generalize Surroundings.ofBench _ _ _ c.buffer _ = around at answered ⊢
    generalize asked : Wait.mk _ wait.timeout predicate = w at answered ⊢
    cases ended : (w.run around events g).result with
    | error e =>
      rw [ended] at answered
      cases answered
    | ok data =>
      rw [ended] at answered
      obtain ⟨⟨call, found⟩, inTime⟩ := Wait.finds_of_run ended
      subst asked
      refine ⟨data, (Except.ok.inj answered).symm, ⟨call, found⟩, fun waiting its => ?_⟩
      cases its
      exact inTime

end Registry

theorem Operator.holds_of_judge {operator : Operator} {expected : Data} {call : Nat} {data : Data}
    (found : (Predicate.ofRule (.operator operator.name expected) call data).judge data
      = .ok none) : operator.compare data expected = .ok .holds := by
  rw [call_name] at found
  cases compared : operator.compare data expected with
  | ok outcome =>
    rw [compared] at found
    cases outcome with
    | holds => rfl
    | fails m => cases found
  | error e =>
    rw [compared] at found
    cases e with
    | expectation m => cases found
    | fault f =>
      unfold Verdict.ofComparison Verdict.judge at found
      dsimp only at found
      split at found
      · cases found
      · cases found
    | _ => cases found

namespace CommandLine

/-- A check of a channel's output, as a command line asks for it. -/
structure Inquiry where
  channel : String
  operator : Operator
  expected : String
  write : Option String
  timeout : Binary64
  baud : Int

/-- What the stages of a check come to, in the order in which they are gone through. A stage that is
not reached, or not asked for, comes to nothing. -/
structure Stages where
  opening : Except Error Channel
  writing : Option (Except Error Int)
  waiting : Option (Except Error Reply)
  closing : Option (Except Error Unit)
  stopping : Except Error Unit

namespace Inquiry

/-- The command that carries the check out. -/
def run [Clock] (q : Inquiry) (w : World) : Report :=
  runExpect q.channel q.operator.name q.expected q.write q.timeout q.baud w

/-- The wait of the check. -/
def wait [Clock] (q : Inquiry) (w : World) (g : Registry) : StepAnswer Registry :=
  g.waitFor (fun act g => g.perform (.device act))
    (Predicate.make (.operator q.operator.name (.text q.expected)))
    (some ⟨q.channel, .real q.timeout⟩) w.events

/-- The wait as one on a buffer. -/
def asked (q : Inquiry) : Wait :=
  ⟨q.channel, .real q.timeout, .ofRule (.operator q.operator.name (.text q.expected))⟩

/-- Whatever came of the stages before, every channel is closed and the scheduler is stopped. -/
def finish (c : Channel) (writing : Option (Except Error Int))
    (waiting : Option (Except Error Reply)) (g : Registry) : Stages where
  opening := .ok c
  writing := writing
  waiting := waiting
  closing := some g.closeAll.1
  stopping := (g.closeAll.2.bench.stop Scheduler.joinTimeout).1

/-- The stages of the check, each on what the one before has left behind. -/
def stages [Clock] (q : Inquiry) (w : World) : Stages :=
  match w.started.openChannel q.channel (.number q.baud) (.number SerialPort.defaultBits) with
  | (.error e, g) =>
    ⟨.error e, none, none, none, (g.bench.stop Scheduler.joinTimeout).1⟩
  | (.ok c, g) =>
    match q.write.map fun text => g.write q.channel (.text text) with
    | none => finish c none (some (q.wait w g).result) (q.wait w g).after
    | some (.error e, g) => finish c (some (.error e)) none g
    | some (.ok n, g) => finish c (some (.ok n)) (some (q.wait w g).result) (q.wait w g).after

end Inquiry

/-- The error of a result that is one. -/
def errorOf? {α : Type} : Except Error α → Option Error
  | .ok _ => none
  | .error e => some e

theorem errorOf?_eq_none {α : Type} {result : Except Error α} (none : errorOf? result = none) :
    ∃ a, result = .ok a := by
  cases result with
  | ok a => exact ⟨a, rfl⟩
  | error e => cases none

theorem bind_errorOf? {writing : Option (Except Error Int)}
    (written : ∀ result ∈ writing, ∃ n, result = .ok n) : writing.bind errorOf? = none := by
  cases writing with
  | none => rfl
  | some result =>
    obtain ⟨n, rfl⟩ := written result rfl
    rfl

/-- Data as the command prints it: a text as it is, and bytes in hexadecimal. -/
def shown : Data → String
  | .text s => s
  | .bytes b => Text.Hex.spell b

/-- The line for the error that is reported. -/
def reportLine : Error → String
  | e@(.lastMismatch _ _ _) => "Mismatch: " ++ e.message
  | e => "Error: " ++ e.message

/-- Lines as they are printed. -/
def printedLines (lines : List String) : String :=
  lines.foldl (fun printed line => printed ++ line ++ "\n") ""

namespace Stages

/-- The errors of a write or of a wait. -/
def bodyErrors (s : Stages) : List Error :=
  (s.writing.bind errorOf?).toList ++ (s.waiting.bind errorOf?).toList

/-- The errors before the scheduler is stopped, in the order in which they occur. -/
def errorsBeforeStop (s : Stages) : List Error :=
  (errorOf? s.opening).toList ++ s.bodyErrors ++ (s.closing.bind errorOf?).toList

/-- All errors, in the order in which they occur. -/
def errors (s : Stages) : List Error :=
  s.errorsBeforeStop ++ (errorOf? s.stopping).toList

/-- The lines that warn of a failure to close after the write or the wait has failed. -/
def warnings (s : Stages) : List String :=
  if s.bodyErrors = [] then []
  else (s.closing.bind errorOf?).toList.map fun e => "Warning: " ++ e.message

/-- The channel was opened, the write, if one was asked for, was made, the wait has found its data,
every channel was closed, and the scheduler has stopped. -/
structure Succeed (s : Stages) (data : Data) : Prop where
  opening : ∃ c, s.opening = .ok c
  writing : ∀ result ∈ s.writing, ∃ n, result = .ok n
  waiting : s.waiting = some (.ok (.data data))
  closing : s.closing = some (.ok ())
  stopping : s.stopping = .ok ()

theorem Succeed.errors {s : Stages} {data : Data} (succeed : s.Succeed data) : s.errors = [] := by
  obtain ⟨c, opening⟩ := succeed.opening
  simp [Stages.errors, errorsBeforeStop, bodyErrors, opening, bind_errorOf? succeed.writing,
    succeed.waiting, succeed.closing, succeed.stopping, errorOf?]

/-- A check has come to what its stages before the stop tell: to the data that the wait has found if
none of them failed, and otherwise to the first error. It has printed the warnings. -/
structure ToldBy (s : Stages) (c : Checked) : Prop where
  found : s.errorsBeforeStop = [] → ∃ data, c.result = .ok data
    ∧ s.waiting = some (.ok (.data data)) ∧ (s.stopping = .ok () → s.Succeed data)
  failed : ∀ e ∈ s.errorsBeforeStop.head?, c.result = .error e
  printed : c.printed = ⟨"", printedLines s.warnings⟩
  stopping : s.stopping = (c.registry.bench.stop Scheduler.joinTimeout).1

end Stages

open Stages

section Closing

variable {c : Channel} {writing : Option (Except Error Int)} {waiting : Option (Except Error Reply)}
  {elapsed : Rat} {g : Registry}

theorem toldBy_of_found {data : Data} (written : ∀ result ∈ writing, ∃ n, result = .ok n) :
    (Inquiry.finish c writing (some (.ok (.data data))) g).ToldBy
      (closeChecked ⟨.ok data, .none, elapsed, g⟩) := by
  have body : (Inquiry.finish c writing (some (.ok (.data data))) g).bodyErrors = [] := by
    simp [bodyErrors, Inquiry.finish, bind_errorOf? written, errorOf?]
  have unwarned : (Inquiry.finish c writing (some (.ok (.data data))) g).warnings = [] :=
    if_pos body
  have errors : (Inquiry.finish c writing (some (.ok (.data data))) g).errorsBeforeStop
      = (errorOf? g.closeAll.1).toList := by
    rw [errorsBeforeStop, body]
    rfl
  unfold closeChecked
  dsimp only
  constructor
  case found =>
    intro none
    rw [errors] at none
    obtain ⟨⟨⟩, closed⟩ := errorOf?_eq_none (Option.toList_eq_nil_iff.mp none)
    rw [closed]
    exact ⟨data, rfl, rfl, fun stopped => ⟨⟨c, rfl⟩, written, rfl, congrArg some closed, stopped⟩⟩
  case failed =>
    intro e first
    rw [errors] at first
    cases closed : g.closeAll.1 with
    | ok done =>
      rw [closed] at first
      cases first
    | error e' =>
      rw [closed] at first
      cases first
      rfl
  case printed =>
    rw [unwarned]
    rfl
  case stopping => rfl

theorem toldBy_of_failed {e : Error} (own : e.isBench = true)
    (failed : (Inquiry.finish c writing waiting g).bodyErrors = [e]) :
    (Inquiry.finish c writing waiting g).ToldBy
      (closeChecked ⟨.error e, .none, elapsed, g⟩) := by
  have first : (Inquiry.finish c writing waiting g).errorsBeforeStop.head? = some e := by
    rw [errorsBeforeStop, failed]
    rfl
  have warned : (Inquiry.finish c writing waiting g).warnings
      = (errorOf? g.closeAll.1).toList.map fun e => "Warning: " ++ e.message := by
    rw [warnings, failed]
    rfl
  unfold closeChecked
  dsimp only
  rw [own]
  constructor
  case found =>
    intro none
    rw [none] at first
    cases first
  case failed =>
    intro e' same
    rw [first] at same
    cases same
    rfl
  case printed =>
    rw [warned]
    cases g.closeAll.1 <;> rfl
  case stopping => rfl

end Closing

section Check

variable {q : Inquiry} {w : World}

/-- The check, before the scheduler is stopped. -/
def Inquiry.checked [Clock] (q : Inquiry) (w : World) : Checked :=
  openAndCheck q.channel q.operator.name q.expected q.write q.timeout q.baud w.events w.started

/-- What a check takes the answer of its wait for. -/
def dataOf : Except Error Reply → Except Error Data
  | .ok (.data d) => .ok d
  | .ok _ => .ok (.text "")
  | .error e => .error e

theorem wait_found [Clock] {g : Registry} {reply : Reply}
    (answered : (q.wait w g).result = .ok reply) :
    ∃ data, reply = .data data ∧ q.operator.compare data (.text q.expected) = .ok .holds
      ∧ ((q.wait w g).waiting.map (·.elapsed)).getD 0 ≤ max 0 q.timeout.value := by
  unfold Inquiry.wait at answered ⊢
  rw [Operator.make_name] at answered ⊢
  obtain ⟨data, rfl, ⟨call, found⟩, inTime⟩ := Registry.waitFor_found answered
  refine ⟨data, rfl, Operator.holds_of_judge found, ?_⟩
  cases waited : (g.waitFor (fun act g => g.perform (.device act))
    (.ok (.ofRule (.operator q.operator.name (.text q.expected))))
    (some ⟨q.channel, .real q.timeout⟩) w.events).waiting with
  | none => exact le_max_left ..
  | some waiting => exact inTime waiting waited

theorem wait_eq [Clock] (q : Inquiry) (w : World) (g : Registry) :
    q.wait w g = g.waitFor (fun act g => g.perform (.device act)) (.ok q.asked.predicate)
      (some ⟨q.channel, .real q.timeout⟩) w.events := by
  rw [Inquiry.wait, Operator.make_name]
  rfl

/-- A wait on an empty buffer that finds data ends on the occasion that brought it. -/
theorem wait_endsAmong [Clock] {g : Registry} {c : Channel} {data : Data}
    (active : g.active q.channel = .ok c) (empty : g.bench.buffer c.buffer = .empty q.channel)
    (answered : (q.wait w g).result = .ok (.data data)) :
    ∃ content, q.asked.EndsAmong [] (.ok data)
      (((q.wait w g).waiting.map (·.elapsed)).getD 0) content := by
  have bounded := isTooLarge_real q.timeout
  have waits : g.waitOn c q.asked.predicate ⟨q.channel, .real q.timeout⟩ = q.asked := by
    rw [Registry.waitOn, empty]
    rfl
  have allowed : ¬ (g.waitOn c q.asked.predicate ⟨q.channel, .real q.timeout⟩).Refused
      (g.bench.buffer c.buffer).snapshot := by
    rintro ⟨refused, m, failed⟩
    obtain ⟨positive, tooLong⟩ := Wait.isRefused_iff.mp refused
    have raised : (q.wait w g).result = .error .sleepTooLong := by
      rw [wait_eq]
      exact (Registry.waitFor_refused ⟨q.channel, .real q.timeout⟩ bounded active positive tooLong
        failed).1
    rw [raised] at answered
    cases answered
  obtain ⟨result, same, ends⟩ := Registry.waitFor_endsAmong active bounded w.events allowed
  rw [wait_eq] at answered ⊢
  rw [same] at answered
  obtain rfl : result = .ok data := by
    cases result with
    | error e => cases answered
    | ok found =>
      cases answered
      rfl
  rw [waits, empty] at ends
  exact ⟨_, ends⟩

theorem write_keeps (name : String) (data : Data) (g : Registry) :
    (g.write name data).2.opened = g.opened
      ∧ (g.write name data).2.bench.buffers = g.bench.buffers := by
  unfold Registry.write
  cases g.active name with
  | error e => exact ⟨rfl, rfl⟩
  | ok c => exact ⟨rfl, rfl⟩

theorem toldBy_waited [Clock] {c : Channel} {writing : Option (Except Error Int)} {elapsed : Rat}
    {g : Registry} (written : ∀ result ∈ writing, ∃ n, result = .ok n)
    (own : ∀ e, (q.wait w g).result = .error e → e.isBench = true) :
    (Inquiry.finish c writing (some (q.wait w g).result) (q.wait w g).after).ToldBy
      (closeChecked ⟨dataOf (q.wait w g).result, .none, elapsed, (q.wait w g).after⟩) := by
  cases answered : (q.wait w g).result with
  | ok reply =>
    obtain ⟨data, rfl, -⟩ := wait_found answered
    exact toldBy_of_found written
  | error e =>
    refine toldBy_of_failed (own e answered) ?_
    simp [bodyErrors, Inquiry.finish, bind_errorOf? written, errorOf?]

/-- How far a check goes: it fails to open, it fails to write, or it waits. -/
theorem stages_cases [Clock] (q : Inquiry) (w : World) :
    (∃ e g, q.stages w
          = ⟨.error e, none, none, none, (g.bench.stop Scheduler.joinTimeout).1⟩
        ∧ q.checked w = ⟨.error e, .none, 0, g⟩)
      ∨ (∃ c e g, q.stages w = Inquiry.finish c (some (.error e)) none g
        ∧ q.checked w = closeChecked ⟨.error e, .none, 0, g⟩)
      ∨ ∃ c writing g, (∀ result ∈ writing, ∃ n, result = .ok n)
        ∧ (g.active q.channel = .ok c ∧ g.bench.buffer c.buffer = .empty q.channel)
        ∧ q.stages w
          = Inquiry.finish c writing (some (q.wait w g).result) (q.wait w g).after
        ∧ q.checked w = closeChecked ⟨dataOf (q.wait w g).result, .none,
          ((q.wait w g).waiting.map (·.elapsed)).getD 0, (q.wait w g).after⟩ := by
  unfold Inquiry.stages Inquiry.checked openAndCheck writeAndCheck
  rcases opened : w.started.openChannel q.channel (.number q.baud)
    (.number SerialPort.defaultBits) with ⟨e | c, g⟩
  · exact Or.inl ⟨e, g, rfl, rfl⟩
  · have adds := Registry.adds_openChannel opened
    cases q.write with
    | none =>
      exact Or.inr (Or.inr ⟨c, none, g, fun result its => (nomatch its),
        ⟨adds.active rfl, adds.buffer⟩, rfl, rfl⟩)
    | some text =>
      obtain ⟨channels, buffers⟩ := write_keeps q.channel (.text text) g
      dsimp only [Option.map]
      rcases written : g.write q.channel (.text text) with ⟨e | n, later⟩ <;>
        rw [written] at channels buffers
      · exact Or.inr (Or.inl ⟨c, e, later, rfl, rfl⟩)
      · have kept : w.started.Adds later q.channel c :=
          ⟨channels.trans adds.opened, adds.named, by
            rw [Bench.buffer, buffers]
            exact adds.buffer⟩
        exact Or.inr (Or.inr ⟨c, some (.ok n), later,
          fun result its => ⟨n, (Option.some.inj its).symm⟩, ⟨kept.active rfl, kept.buffer⟩, rfl,
          rfl⟩)

theorem toldBy_checked [Clock] (own : ∀ e ∈ (q.stages w).errors, e.isBench = true) :
    (q.stages w).ToldBy (q.checked w) := by
  rcases stages_cases q w with ⟨e, g, stages, checked⟩ | ⟨c, e, g, stages, checked⟩
    | ⟨c, writing, g, written, -, stages, checked⟩
  · rw [stages, checked]
    refine ⟨fun none => (nomatch none), fun e' first => ?_, rfl, rfl⟩
    cases first
    rfl
  · rw [stages] at own ⊢
    rw [checked]
    refine toldBy_of_failed (own e ?_) rfl
    simp [errors, errorsBeforeStop, bodyErrors, Inquiry.finish, errorOf?]
  · rw [stages] at own ⊢
    rw [checked]
    refine toldBy_waited written fun e failed => own e ?_
    simp [errors, errorsBeforeStop, bodyErrors, Inquiry.finish, failed, errorOf?]

theorem elapsed_closeChecked (c : Checked) : (closeChecked c).elapsed = c.elapsed := by
  unfold closeChecked
  split
  · rfl
  · split <;> rfl

theorem checked_found [Clock] {data : Data}
    (found : (q.stages w).waiting = some (.ok (.data data))) :
    q.operator.compare data (.text q.expected) = .ok .holds
      ∧ (q.checked w).elapsed ≤ max 0 q.timeout.value
      ∧ ∃ content, q.asked.EndsAmong [] (.ok data) (q.checked w).elapsed content := by
  rcases stages_cases q w with ⟨e, g, stages, -⟩ | ⟨c, e, g, stages, -⟩
    | ⟨c, writing, g, -, ⟨active, empty⟩, stages, checked⟩
  · rw [stages] at found
    cases found
  · rw [stages] at found
    cases found
  · rw [stages] at found
    rw [checked, elapsed_closeChecked]
    have answered := Option.some.inj found
    obtain ⟨d, same, holds, inTime⟩ := wait_found answered
    cases same
    exact ⟨holds, inTime, wait_endsAmong active empty answered⟩

end Check

/-! ### The report -/

section Report

variable {q : Inquiry} {w : World}

/-- The check, after the scheduler was stopped. -/
def Inquiry.left [Clock] (q : Inquiry) (w : World) : Checked :=
  checkOutput q.channel q.operator.name q.expected q.write q.timeout q.baud w

theorem left_fields [Clock] (q : Inquiry) (w : World) :
    (q.left w).printed = (q.checked w).printed ∧ (q.left w).elapsed = (q.checked w).elapsed :=
  ⟨rfl, rfl⟩

/-- An error under way when the scheduler is stopped is kept. -/
theorem left_of_failed [Clock] {e : Error} (failed : (q.checked w).result = .error e) :
    (q.left w).result = .error e := by
  obtain ⟨-, kept, -⟩ :=
    checkOutput_spec w q.channel q.operator.name q.expected q.write q.timeout q.baud
  exact kept e failed

theorem left_of_found [Clock] {data : Data} (found : (q.checked w).result = .ok data) :
    (q.left w).result
      = ((q.checked w).registry.bench.stop Scheduler.joinTimeout).1.map fun _ => data := by
  unfold Inquiry.left checkOutput
  generalize checked : openAndCheck _ _ _ _ _ _ _ _ = c
  obtain rfl : q.checked w = c := checked
  dsimp only
  rw [found]
  dsimp only
  rw [Bench.leave_none]
  cases ((q.checked w).registry.bench.stop Scheduler.joinTimeout).1 <;> rfl

/-- A check whose stages have no error finds its data, and one with errors comes to the first. -/
theorem left_result [Clock] (told : (q.stages w).ToldBy (q.checked w)) :
    match (q.stages w).errors.head? with
    | none => ∃ data, (q.left w).result = .ok data ∧ (q.stages w).Succeed data
    | some e => (q.left w).result = .error e := by
  unfold Stages.errors
  cases before : (q.stages w).errorsBeforeStop with
  | cons e rest =>
    refine left_of_failed (told.failed e ?_)
    rw [before]
    rfl
  | nil =>
    obtain ⟨data, found, waited, succeeds⟩ := told.found before
    have left := left_of_found found
    rw [← told.stopping] at left
    cases stopped : (q.stages w).stopping with
    | ok done =>
      rw [stopped] at left
      exact ⟨data, left, succeeds stopped⟩
    | error e =>
      rw [stopped] at left
      exact left

theorem run_of_found [Clock] {data : Data} (found : (q.left w).result = .ok data) :
    (q.run w).exit = .ok 0 ∧ (q.run w).elapsed = (q.left w).elapsed
      ∧ (q.run w).printed = (q.left w).printed.line (shown data) := by
  unfold Inquiry.run runExpect
  unfold Inquiry.left at found ⊢
  generalize checkOutput q.channel q.operator.name q.expected q.write q.timeout q.baud w = c
    at found ⊢
  obtain ⟨result, printed, elapsed, g⟩ := c
  obtain rfl : result = .ok data := found
  cases data <;> exact ⟨rfl, rfl, rfl⟩

theorem run_of_failed [Clock] {e : Error} (failed : (q.left w).result = .error e)
    (own : e.isBench = true) :
    (q.run w).exit = .ok 1 ∧ (q.run w).printed = (q.left w).printed.errLine (reportLine e) := by
  unfold Inquiry.run runExpect
  unfold Inquiry.left at failed ⊢
  generalize checkOutput q.channel q.operator.name q.expected q.write q.timeout q.baud w = c
    at failed ⊢
  obtain ⟨result, printed, elapsed, g⟩ := c
  obtain rfl : result = .error e := failed
  cases e
  case lastMismatch => exact ⟨rfl, rfl⟩
  all_goals
    dsimp only
    rw [if_pos own]
    exact ⟨rfl, rfl⟩

end Report

/-- What a command reports that has found data in time, or that names the first error of its
stages. -/
structure Inquiry.Reports [Clock] (q : Inquiry) (w : World) : Prop where
  code : (q.run w).exit = .ok 0 ↔ ∃ data, (q.stages w).Succeed data
  success : ∀ data, (q.stages w).Succeed data →
    q.operator.compare data (.text q.expected) = .ok .holds
      ∧ (q.run w).elapsed ≤ max 0 q.timeout.value
      ∧ (∃ content, q.asked.EndsAmong [] (.ok data) (q.run w).elapsed content)
      ∧ (q.run w).printed = ⟨shown data ++ "\n", ""⟩
  failure : (¬ ∃ data, (q.stages w).Succeed data) →
    ∃ e, (q.stages w).errors.head? = some e ∧ (q.run w).exit = .ok 1
      ∧ (q.run w).printed = ⟨"", printedLines ((q.stages w).warnings ++ [reportLine e])⟩

theorem Stages.Succeed.warnings {s : Stages} {data : Data} (succeed : s.Succeed data) :
    s.warnings = [] := by
  unfold Stages.warnings
  split
  · rfl
  · rw [succeed.closing]
    rfl

/-- A command whose errors are all the bench's own succeeds if and only if none of its stages fails.
It then prints what it has found, and otherwise it names the first error after the warnings. -/
theorem Inquiry.reports [Clock] (q : Inquiry) (w : World)
    (own : ∀ e ∈ (q.stages w).errors, e.isBench = true) : q.Reports w := by
  have told := toldBy_checked own
  have left := left_result told
  obtain ⟨printed, elapsed⟩ := left_fields q w
  rw [told.printed] at printed
  cases first : (q.stages w).errors.head? with
  | none =>
    rw [first] at left
    obtain ⟨data, found, succeed⟩ := left
    obtain ⟨exit, waited, shows⟩ := run_of_found found
    obtain ⟨holds, inTime, ends⟩ := checked_found succeed.waiting
    rw [printed, succeed.warnings] at shows
    refine ⟨⟨fun _ => ⟨data, succeed⟩, fun _ => exit⟩, fun data' succeed' => ?_,
      fun fails => absurd ⟨data, succeed⟩ fails⟩
    obtain rfl : data = data' := by
      have same := succeed.waiting.symm.trans succeed'.waiting
      simpa using same
    refine ⟨holds, ?_, ?_, ?_⟩
    · rw [waited, elapsed]
      exact inTime
    · rw [waited, elapsed]
      exact ends
    · rw [shows]
      simp [Printed.line, printedLines]
  | some e =>
    rw [first] at left
    have fails : ¬ ∃ data, (q.stages w).Succeed data := by
      rintro ⟨data, succeed⟩
      rw [succeed.errors] at first
      cases first
    obtain ⟨exit, shows⟩ := run_of_failed left (own e (List.mem_of_mem_head? first))
    refine ⟨⟨fun code => ?_, fun succeeds => absurd succeeds fails⟩,
      fun data succeed => absurd ⟨data, succeed⟩ fails, fun _ => ⟨e, first, exit, ?_⟩⟩
    · rw [exit] at code
      cases code
    · rw [shows, printed]
      simp [Printed.errLine, printedLines]

/-- The device on the usual port can be neither written to nor closed, and the thread is stuck. -/
def failing : World where
  environ := .ofList [("HIL_SERIAL_DEV", "/dev/a")]
  process := .quiet
  bench := [DeviceAct.setFault "/dev/a" .write (some ⟨.system, "gone"⟩),
    .setFault "/dev/a" .close (some ⟨.system, "busy"⟩), .stick true].foldl
      (fun b act => (b.perform act).2) (.make [] .usual)
  events := []

/-- Asks for an answer within three seconds. -/
def pinging : Inquiry :=
  ⟨"Serial", .contain, "pong", some "ping", .ofInt 3, SerialPort.defaultBaud⟩

/-- The port that the answer comes from. -/
def answeringPort : SerialPort := ⟨"/dev/a", 9600, 8, "N", 1, some 10, true⟩

/-- The channel on that port, once it is open. -/
def answeringChannel : Channel :=
  ⟨"Serial", .serial answeringPort, 0, ⟨1, "Serial", .serial answeringPort, .buffer 0⟩⟩

/-- No stage fails where the device answers. -/
theorem succeed_answering :
    letI : Clock := .threads
    (pinging.stages answering).Succeed (.text "pong") := by
  let _ : Clock := .threads
  let opened := (answering.started.openChannel "Serial" (.number SerialPort.defaultBaud)
    (.number SerialPort.defaultBits)).2
  let asked := (opened.write "Serial" (.text "ping")).2
  let fed := (asked.bench.settle.perform (.feed "/dev/a" [Text.Utf8.encode "pong"])).2
  let later : Registry := { asked with bench := fed.settle }
  have opens : answering.started.openChannel "Serial" (.number SerialPort.defaultBaud)
      (.number SerialPort.defaultBits) = (.ok answeringChannel, opened) :=
    Prod.ext (by decide +kernel) rfl
  have writes : opened.write "Serial" (.text "ping") = (.ok 4, asked) :=
    Prod.ext (by decide +kernel) rfl
  have answered : (asked.waitOn answeringChannel pinging.asked.predicate
      ⟨"Serial", .real (.ofInt 3)⟩).Answered answeringChannel.surroundings
      ⟨1, .feed "/dev/a" [Text.Utf8.encode "pong"]⟩ asked later := by
    refine ⟨rfl, ⟨⟨"contain", .text "pong", .text "", ""⟩, ?_⟩, ?_, ?_, ?_, ?_, ?_, rfl, ?_, ?_⟩ <;>
      decide +kernel
  have active : asked.active "Serial" = .ok answeringChannel := by decide +kernel
  have stages : pinging.stages answering = Inquiry.finish answeringChannel (some (.ok 4))
      (some (pinging.wait answering asked).result) (pinging.wait answering asked).after := by
    unfold Inquiry.stages
    rw [show answering.started.openChannel pinging.channel (.number pinging.baud)
      (.number SerialPort.defaultBits) = _ from opens]
    dsimp only
    rw [show pinging.write.map (fun text => opened.write pinging.channel (.text text)) = _ from
      congrArg some writes]
  have waits : pinging.wait answering asked = _ := wait_eq pinging answering asked
  obtain ⟨result, -, after⟩ := Registry.waitFor_of_answered active answered
  have found : (pinging.wait answering asked).result = .ok (.data (.text "pong")) := by
    have received : (later.bench.buffer answeringChannel.buffer).snapshot = .text "pong" := by
      decide +kernel
    rw [← received, ← result, waits]
    rfl
  have left : (pinging.wait answering asked).after = later := by
    rw [← after, waits]
    rfl
  rw [stages, found, left]
  exact ⟨⟨_, rfl⟩, fun written its => ⟨4, (Option.some.inj its).symm⟩, rfl, by decide +kernel,
    by decide +kernel⟩

/-- Where the device answers after a second, the command finds the answer in time. Where the write,
the closing and the stop fail one after another, the write is reported and the closing warned of. -/
theorem reports_pinging :
    letI : Clock := .threads
    ((∀ e ∈ (pinging.stages answering).errors, e.isBench = true)
      ∧ (pinging.stages answering).Succeed (.text "pong") ∧ (pinging.run answering).exit = .ok 0
      ∧ (pinging.run answering).elapsed ≤ max 0 pinging.timeout.value
      ∧ (pinging.run answering).printed = ⟨"pong\n", ""⟩)
    ∧ (∀ e ∈ (pinging.stages failing).errors, e.isBench = true)
      ∧ (pinging.stages failing).errors.length = 3 ∧ (pinging.run failing).exit = .ok 1
      ∧ (pinging.run failing).printed
        = ⟨"", "Warning: Failed to close 1 of 1 channel(s); first failure on Serial: busy\n"
          ++ "Error: [write Serial] Write to /dev/a failed: gone\n"⟩ := by
  let _ : Clock := .threads
  constructor
  · have own : ∀ e ∈ (pinging.stages answering).errors, e.isBench = true := by
      rw [succeed_answering.errors]
      exact List.forall_mem_nil _
    have reports := pinging.reports answering own
    obtain ⟨-, inTime, -, printed⟩ := reports.success _ succeed_answering
    exact ⟨own, succeed_answering, reports.code.mpr ⟨_, succeed_answering⟩, inTime, printed⟩
  · have own : ((pinging.stages failing).errors.all fun e => e.isBench) = true := by decide +kernel
    have three : (pinging.stages failing).errors.length = 3 := by decide +kernel
    have lines : ((pinging.stages failing).errors.head?.map fun e =>
        printedLines ((pinging.stages failing).warnings ++ [reportLine e]))
        = some ("Warning: Failed to close 1 of 1 channel(s); first failure on Serial: busy\n"
          ++ "Error: [write Serial] Write to /dev/a failed: gone\n") := by decide +kernel
    have unsuccessful : ¬ ∃ data, (pinging.stages failing).Succeed data := by
      rintro ⟨data, succeed⟩
      rw [succeed.errors] at three
      cases three
    obtain ⟨e, first, exit, printed⟩ :=
      (pinging.reports failing (List.all_eq_true.mp own)).failure unsuccessful
    rw [first] at lines
    exact ⟨List.all_eq_true.mp own, three, exit, printed.trans (congrArg _ (Option.some.inj lines))⟩

end CommandLine

end AcceptanceBench
