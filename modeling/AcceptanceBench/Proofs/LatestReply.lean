import AcceptanceBench.Proofs.HexWire
import AcceptanceBench.Proofs.Script
import AcceptanceBench.Step.Usb

/-!
The reply that a USB channel keeps. After any script it is what the latest request that succeeded
returned, unless a reset came later.
-/

namespace AcceptanceBench

namespace UsbBench

open Text.Hex

/-- A step that was taken, with what it returned. -/
structure Taken where
  step : UsbStep
  result : Except Error Reply

/-- The reply that a step fetched: what a request returned. -/
def Taken.fetched? (t : Taken) : Option Bytes :=
  match t.step, t.result with
  | .send _ _, .ok (.data (.bytes bytes)) => some bytes
  | _, _ => none

/-- What a script on a new channel did. -/
def history (command : String) (runner : Runner) (steps : List UsbStep) : List Taken :=
  List.zipWith (fun step answer => ⟨step, answer.result⟩) steps (run command runner steps)

/-- Whether the bytes are what the latest request that succeeded returned, with no reset since. -/
def IsLatest (past : List Taken) (bytes : Bytes) : Prop :=
  ∃ before t after, past = before ++ t :: after ∧ t.fetched? = some bytes ∧
    ∀ later ∈ after, later.fetched? = none ∧ later.step ≠ .reset

/-- What the transfer tool prints: the script's answer, or what its process printed before it ended
well. -/
inductive Prints (tool : ToolOutcome) : Runner → String → Prop
  | scripted {text : String} (answers : tool.answer = .ok text) : Prints tool .scripted text
  | system {stdout stderr : Bytes} (ends : tool.process = .exits 0 stdout stderr) :
      Prints tool .system (Text.trimEnd (printedText stdout))

/-- How the transfer tool fails: the script raises a fault, or its process cannot be started or ends
with another code. -/
inductive Breaks (command : String) (r : UsbRequest) (tool : ToolOutcome) : Runner → Error → Prop
  | raised {f : Fault} (raises : tool.answer = .error f) :
      Breaks command r tool .scripted (.fault f)
  | refused {reason : String} (refuses : tool.process = .refused reason) :
      Breaks command r tool .system
        (startError r.context (Text.Shell.join (r.arguments command)) reason)
  | faulted {f : Fault} (faults : tool.process = .faults f) :
      Breaks command r tool .system (if f.kind.isSystem
        then startError r.context (Text.Shell.join (r.arguments command)) f.text else .fault f)
  | failed {code : Int} {stdout stderr : Bytes} (ends : tool.process = .exits code stdout stderr)
      (bad : code ≠ 0) :
      Breaks command r tool .system (.commandFailed r.context code
        ⟨Text.Shell.join (r.arguments command), some code, printedText stdout, printedText stderr⟩)

variable {u : UsbChannel} {r : UsbRequest} {tool : ToolOutcome}

theorem Prints.output {text : String} (prints : Prints tool u.runner text) :
    u.output r tool = .ok text := by
  obtain ⟨command, runner, reply⟩ := u
  cases prints with
  | scripted answers => simp only [UsbChannel.output, answers]
  | system ends =>
    simp only [UsbChannel.output, runCommand, ends, if_true]
    rfl

theorem Breaks.output {e : Error} (breaks : Breaks u.command r tool u.runner e) :
    u.output r tool = .error e := by
  obtain ⟨command, runner, reply⟩ := u
  cases breaks with
  | raised raises => simp only [UsbChannel.output, raises]
  | refused refuses => simp only [UsbChannel.output, runCommand, refuses]
  | faulted faults => simp only [UsbChannel.output, runCommand, faults]
  | failed ends bad =>
    simp only [UsbChannel.output, runCommand, ends, if_neg bad]
    rfl

/-! ### The latest reply of a history -/

variable {past : List Taken} {t : Taken} {bytes : Bytes}

theorem isLatest_iff_since : IsLatest past bytes ↔
    Since (·.fetched? = some bytes) (fun t => t.fetched? ≠ none ∨ t.step = .reset) past := by
  simp only [IsLatest, Since, not_or, not_not, ne_eq]

theorem not_isLatest_nil : ¬ IsLatest [] bytes := by
  rw [isLatest_iff_since]
  exact not_since_nil

/-- A further step makes its own reply the latest, or leaves the latest if it is no reset. -/
theorem isLatest_concat : IsLatest (past ++ [t]) bytes ↔
    t.fetched? = some bytes ∨ t.fetched? = none ∧ t.step ≠ .reset ∧ IsLatest past bytes := by
  rw [isLatest_iff_since, isLatest_iff_since, since_concat, not_or, not_not, and_assoc]

/-- After a request that succeeded there is a latest reply until a reset. -/
theorem exists_isLatest {before after : List Taken} (fetched : t.fetched? ≠ none)
    (kept : ∀ later ∈ after, later.step ≠ .reset) :
    ∃ bytes, IsLatest (before ++ t :: after) bytes := by
  induction after using List.reverseRecOn with
  | nil =>
    obtain ⟨bytes, fetched⟩ := Option.ne_none_iff_exists'.mp fetched
    exact ⟨bytes, isLatest_concat.mpr (Or.inl fetched)⟩
  | append_singleton after last ih =>
    obtain ⟨bytes, latest⟩ := ih fun later there => kept later (List.mem_append_left _ there)
    rw [← List.cons_append, ← List.append_assoc]
    cases own : last.fetched? with
    | none =>
      exact ⟨bytes, isLatest_concat.mpr (Or.inr ⟨own, kept last (by simp), latest⟩)⟩
    | some newer => exact ⟨newer, isLatest_concat.mpr (Or.inl own)⟩

/-- There is no latest reply exactly if every request that succeeded was followed by a reset. -/
theorem not_isLatest_iff : (∀ bytes, ¬ IsLatest past bytes) ↔
    ∀ before t after, past = before ++ t :: after → t.fetched? ≠ none →
      ∃ later ∈ after, later.step = .reset := by
  constructor
  · rintro absent before t after rfl fetched
    by_contra kept
    have quiet : ∀ later ∈ after, later.step ≠ .reset := fun later there reset =>
      kept ⟨later, there, reset⟩
    obtain ⟨bytes, latest⟩ := exists_isLatest fetched quiet
    exact absent bytes latest
  · rintro cleared bytes ⟨before, t, after, split, fetched, quiet⟩
    obtain ⟨later, there, reset⟩ := cleared before t after split (by simp [fetched])
    exact (quiet later there).2 reset

/-! ### What a step leaves -/

variable {s : UsbBench}

/-- What a request leaves, by what sending it comes to. -/
theorem perform_send {r : UsbRequest} {tool : ToolOutcome} {result : Except Error Bytes}
    {u : UsbChannel} (sent : s.usb.send r tool = (result, u)) :
    (perform (.send r tool) s).1 = replyWith (fun bytes => .data (.bytes bytes)) result ∧
      (perform (.send r tool) s).2.usb = u := by
  rw [perform, sent]
  exact ⟨rfl, rfl⟩

theorem perform_failed {r : UsbRequest} {tool : ToolOutcome} {e : Error}
    (fails : s.usb.output r tool = .error e) :
    (perform (.send r tool) s).1 = .error e ∧ (perform (.send r tool) s).2.usb = s.usb :=
  perform_send (UsbChannel.send_of_error fails)

theorem perform_garbled {r : UsbRequest} {tool : ToolOutcome} {text : String}
    (answers : s.usb.output r tool = .ok text) (other : ¬ IsHexText text) :
    (∃ e, (perform (.send r tool) s).1 = .error e ∧ e.name = "TransportError")
      ∧ (perform (.send r tool) s).2.usb = s.usb := by
  obtain ⟨result, usb⟩ := perform_send (UsbChannel.send_of_badReply answers other)
  exact ⟨⟨_, result, rfl⟩, usb⟩

/-- A step leaves the reply that it fetched, or the one from before if it is no reset. -/
theorem reply_perform {step : UsbStep} :
    (perform step s).2.usb.reply = some bytes ↔
      Taken.fetched? ⟨step, (perform step s).1⟩ = some bytes ∨
        Taken.fetched? ⟨step, (perform step s).1⟩ = none ∧ step ≠ .reset ∧
          s.usb.reply = some bytes := by
  cases step with
  | send r tool =>
    cases answers : s.usb.output r tool with
    | error e =>
      obtain ⟨result, usb⟩ := perform_failed answers
      simp [result, usb, Taken.fetched?]
    | ok text =>
      by_cases hex : IsHexText text
      · obtain ⟨read, reads⟩ := (UsbRequest.exists_reply_iff (r := r)).mpr hex
        obtain ⟨result, usb⟩ := perform_send (UsbChannel.send_of_reply answers reads)
        simp [result, usb, Taken.fetched?, replyWith]
      · obtain ⟨⟨e, result, -⟩, usb⟩ := perform_garbled answers hex
        simp [result, usb, Taken.fetched?]
  | take => simp [perform, Taken.fetched?]
  | hasReply => simp [perform, Taken.fetched?]
  | reset => simp [perform, Taken.fetched?, UsbChannel.reset]
  | refused => simp [perform, Taken.fetched?]

theorem take_eq_ok_iff : (perform .take s).1 = .ok (.data (.bytes bytes)) ↔
    s.usb.reply = some bytes := by
  rw [perform, UsbChannel.take]
  cases s.usb.reply with
  | none => simp [replyWith]
  | some kept => simp [replyWith]

theorem take_eq_error_iff {e : Error} : (perform .take s).1 = .error e ↔
    e = .noReply ∧ s.usb.reply = none := by
  rw [perform, UsbChannel.take]
  cases s.usb.reply with
  | none => simp [replyWith, eq_comm]
  | some kept => simp [replyWith]

/-! ### Whole scripts -/

variable {command : String} {runner : Runner}

/-- A new channel after some steps. -/
def after (command : String) (runner : Runner) (steps : List UsbStep) : UsbBench :=
  steps.foldl (fun s step => (perform step s).2) ⟨.make command runner, [], []⟩

theorem after_concat (past : List UsbStep) (step : UsbStep) :
    after command runner (past ++ [step]) = (perform step (after command runner past)).2 :=
  List.foldl_concat ..

theorem run_concat (past : List UsbStep) (step : UsbStep) :
    run command runner (past ++ [step]) = run command runner past
      ++ [(Answer.ofAct perform step (after command runner past)).asStep] :=
  runSteps_concat ..

theorem history_concat (past : List UsbStep) (step : UsbStep) :
    history command runner (past ++ [step]) = history command runner past
      ++ [⟨step, (perform step (after command runner past)).1⟩] :=
  zipWith_runSteps_concat ..

/-- The command and what runs it never change. -/
theorem usb_after (steps : List UsbStep) : (after command runner steps).usb
    = ⟨command, runner, (after command runner steps).usb.reply⟩ := by
  induction steps using List.reverseRecOn with
  | nil => rfl
  | append_singleton past step ih =>
    rw [after_concat]
    generalize after command runner past = s at ih ⊢
    cases step with
    | send r tool =>
      change (s.usb.send r tool).2 = ⟨command, runner, (s.usb.send r tool).2.reply⟩
      unfold UsbChannel.send
      split
      · exact ih
      · split
        · exact ih
        · rw [ih]
    | reset =>
      change s.usb.reset = ⟨command, runner, s.usb.reset.reply⟩
      rw [UsbChannel.reset, ih]
    | take => exact ih
    | hasReply => exact ih
    | refused => exact ih

/-- After any script the reply is the latest of its history. -/
theorem reply_after (steps : List UsbStep) (bytes : Bytes) :
    (after command runner steps).usb.reply = some bytes
      ↔ IsLatest (history command runner steps) bytes := by
  induction steps using List.reverseRecOn with
  | nil => simp [after, UsbChannel.make, history, not_isLatest_nil]
  | append_singleton past step ih =>
    rw [after_concat, history_concat, isLatest_concat, reply_perform, ih]

/-- What a step on a channel returns and leaves, in view of what was done before. -/
structure Faithful (command : String) (runner : Runner) (past : List Taken) (step : UsbStep)
    (answer : StepAnswer UsbBench) : Prop where
  channel : answer.before.usb = ⟨command, runner, answer.before.usb.reply⟩
  stored (bytes : Bytes) : answer.before.usb.reply = some bytes ↔ IsLatest past bytes
  absent : answer.before.usb.reply = none ↔
    ∀ before t after, past = before ++ t :: after → t.fetched? ≠ none →
      ∃ later ∈ after, later.step = .reset
  kept (bytes : Bytes) : answer.after.usb.reply = some bytes ↔
    IsLatest (past ++ [⟨step, answer.result⟩]) bytes
  failed {r : UsbRequest} {tool : ToolOutcome} {e : Error} (sends : step = .send r tool)
    (fails : answer.before.usb.output r tool = .error e) :
      answer.result = .error e ∧ answer.after.usb = answer.before.usb
  broke {r : UsbRequest} {tool : ToolOutcome} {e : Error} (sends : step = .send r tool)
    (breaks : Breaks command r tool runner e) :
      answer.result = .error e ∧ answer.after.usb = answer.before.usb
  misprinted {r : UsbRequest} {tool : ToolOutcome} {text : String} (sends : step = .send r tool)
    (prints : Prints tool runner text) (other : ¬ IsHexText text) :
      (∃ e, answer.result = .error e ∧ e.name = "TransportError") ∧
        answer.after.usb = answer.before.usb
  garbled {r : UsbRequest} {tool : ToolOutcome} {text : String} (sends : step = .send r tool)
    (answers : answer.before.usb.output r tool = .ok text) (other : ¬ IsHexText text) :
      (∃ e, answer.result = .error e ∧ e.name = "TransportError") ∧
        answer.after.usb = answer.before.usb
  fetched {r : UsbRequest} {tool : ToolOutcome} {text : String} {bytes : Bytes}
    (sends : step = .send r tool) (answers : answer.before.usb.output r tool = .ok text)
    (loose : Loose (digits bytes) text.toList) :
      answer.result = .ok (.data (.bytes bytes)) ∧
        answer.after.usb = { answer.before.usb with reply := some bytes }
  took (takes : step = .take) :
    answer.after = answer.before ∧
      (∀ bytes, answer.result = .ok (.data (.bytes bytes)) ↔ IsLatest past bytes) ∧
      ∀ e, answer.result = .error e ↔ e = .noReply ∧ answer.before.usb.reply = none
  asked (asks : step = .hasReply) :
    answer.after = answer.before ∧
      ∃ b, answer.result = .ok (.flag b) ∧ (b = true ↔ ∃ bytes, IsLatest past bytes)
  cleared (resets : step = .reset) :
    answer.result = .ok .nothing ∧ answer.after.usb = { answer.before.usb with reply := none }

/-- The reply that a channel keeps is the last good one, over every script: it is what the latest
request that succeeded after the latest reset returned, and none if there is none. A request that
fails, or whose output is not hexadecimal, leaves it alone; taking it leaves it there, and fails
exactly if there is none. -/
theorem reply_is_latest (command : String) (runner : Runner) (past : List UsbStep)
    (step : UsbStep) :
    ∃ answer, run command runner (past ++ [step]) = run command runner past ++ [answer] ∧
      Faithful command runner (history command runner past) step answer := by
  have stored (bytes : Bytes) := @reply_after command runner past bytes
  have channel := @usb_after command runner past
  refine ⟨_, run_concat past step, ?_⟩
  generalize after command runner past = s at stored channel ⊢
  have absent : s.usb.reply = none ↔ ∀ bytes, ¬ IsLatest (history command runner past) bytes := by
    simp only [← stored, Option.eq_none_iff_forall_ne_some, ne_eq]
  constructor
  case channel => exact channel
  case stored => exact stored
  case absent => exact absent.trans not_isLatest_iff
  case kept =>
    intro bytes
    rw [isLatest_concat, ← stored]
    exact reply_perform
  case failed =>
    rintro r tool e rfl fails
    exact perform_failed fails
  case garbled =>
    rintro r tool text rfl answers other
    exact perform_garbled answers other
  case broke =>
    rintro r tool e rfl breaks
    refine perform_failed (Breaks.output ?_)
    rw [channel]
    exact breaks
  case misprinted =>
    rintro r tool text rfl prints other
    refine perform_garbled (Prints.output ?_) other
    rw [channel]
    exact prints
  case fetched =>
    rintro r tool text bytes rfl answers loose
    exact perform_send (UsbChannel.send_of_reply answers (UsbRequest.reply_eq_ok_iff.mpr loose))
  case took =>
    rintro rfl
    exact ⟨rfl, fun bytes => take_eq_ok_iff.trans (stored bytes), fun e => take_eq_error_iff⟩
  case asked =>
    rintro rfl
    refine ⟨rfl, s.usb.hasReply, rfl, ?_⟩
    simp only [← stored, UsbChannel.hasReply, Option.isSome_iff_exists]
  case cleared =>
    rintro rfl
    exact ⟨rfl, rfl⟩

/-- The usual request, without a payload. -/
def usual : UsbRequest :=
  ⟨UsbRequest.usualRequest, UsbRequest.usualValue, UsbRequest.usualIndex, false, []⟩

/-- A request that succeeds, one whose output is cut off and one that fails, however they are
run. -/
def mixed : List UsbStep :=
  [.send usual ⟨.exits 0 [48, 97, 32, 48, 66, 10] [], .ok "0a 0B"⟩,
    .send usual ⟨.exits 0 [97, 98, 99] [], .ok "abc"⟩,
    .send usual ⟨.exits 1 [] [], .error ⟨.runtime, "gone"⟩⟩]

/-- The reply outlasts the output that is cut off and the failure, but not a reset. -/
theorem reply_is_latest_mixed :
    let answers (runner : Runner) (past : List UsbStep) (result : Except Error Reply) : Prop :=
      ∃ answer, run UsbChannel.usualCommand runner (past ++ [.take])
          = run UsbChannel.usualCommand runner past ++ [answer]
        ∧ Faithful UsbChannel.usualCommand runner (history UsbChannel.usualCommand runner past)
          .take answer
        ∧ answer.result = result
    answers .system mixed (.ok (.data (.bytes [10, 11])))
      ∧ answers .scripted (mixed ++ [UsbStep.reset]) (.error .noReply) := by
  intro answers
  obtain ⟨kept, ran, faithful⟩ := reply_is_latest UsbChannel.usualCommand .system mixed .take
  obtain ⟨gone, ran', faithful'⟩ :=
    reply_is_latest UsbChannel.usualCommand .scripted (mixed ++ [UsbStep.reset]) .take
  refine ⟨⟨kept, ran, faithful, ?_⟩, gone, ran', faithful', ?_⟩
  · have latest : (after UsbChannel.usualCommand .system mixed).usb.reply = some [10, 11] := by
      decide +kernel
    exact ((faithful.took rfl).2.1 _).mpr ((reply_after _ _).mp latest)
  · have cleared : (after UsbChannel.usualCommand .scripted
        (mixed ++ [UsbStep.reset])).usb.reply = none := by
      decide +kernel
    refine ((faithful'.took rfl).2.2 _).mpr ⟨rfl, Option.eq_none_iff_forall_ne_some.mpr ?_⟩
    intro bytes stored
    have latest := (reply_after _ _).mpr ((faithful'.stored bytes).mp stored)
    rw [cleared] at latest
    cases latest

end UsbBench

end AcceptanceBench
