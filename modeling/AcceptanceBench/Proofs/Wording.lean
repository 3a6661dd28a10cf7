import AcceptanceBench.Proofs.TimeoutReport
import AcceptanceBench.Proofs.WaitError
import AcceptanceBench.Proofs.WaitMirror

/-!
Waits whose predicates say the same in other words. A wait asks of a call only whether the matter is
settled; the mismatch of a failed call is remembered for the report. So two waits whose predicates
settle the same calls in the same way take the same turns and end together, and they can differ only
in the report of a time that is up.
-/

namespace AcceptanceBench

variable {σ ε ρ : Type}

/-- The latest detail after a mismatch: the mismatch if it gives a detail, else the one before. -/
def Mismatch.keptOver (m : Mismatch) (before : Option Mismatch) : Option Mismatch :=
  if m.operator = "" then before else some m

/-- The wait with another latest detail. -/
def Watch.withDetail (w : Watch σ ρ) (detail : Option Mismatch) : Watch σ ρ :=
  { w with detail }

theorem Watch.now_withDetail (w : Watch σ ρ) (d : Option Mismatch) :
    (w.withDetail d).now = w.now := rfl

theorem Watch.state_withDetail (w : Watch σ ρ) (d : Option Mismatch) :
    (w.withDetail d).state = w.state := rfl

theorem Watch.seen_withDetail (w : Watch σ ρ) (d : Option Mismatch) :
    (w.withDetail d).seen = w.seen := rfl

theorem Watch.remember_eq (w : Watch σ ρ) (m : Mismatch) :
    w.remember m = w.withDetail (m.keptOver w.detail) := by
  unfold remember Mismatch.keptOver
  split
  · rfl
  · rfl

/-- The predicate of the second wait settles the calls that the first one settles, in the same way.
Of their failed calls, the two waits keep details that are related by `kept`, given the data of the
calls so far. -/
structure Wait.Rewords (kept : List Data → Option Mismatch → Option Mismatch → Prop)
    (wait wait' : Wait) : Prop where
  name : wait'.name = wait.name
  timeout : wait'.timeout = wait.timeout
  begins : kept [] none none
  settles : ∀ call data, (∀ m, wait.finding call data ≠ .ok (some m)) →
    wait'.finding call data = wait.finding call data
  fails : ∀ seen data m, wait.finding seen.length data = .ok (some m) →
    ∃ m', wait'.finding seen.length data = .ok (some m')
      ∧ ∀ d d', kept seen d d' → kept (seen ++ [data]) (m.keptOver d) (m'.keptOver d')

/-- Two waits that have ended together: with the same call, or because the time was up for both. -/
inductive Waited.Together (kept : List Data → Option Mismatch → Option Mismatch → Prop)
    (wait wait' : Wait) (around : Surroundings σ ε ρ) : Waited σ ρ → Waited σ ρ → Prop
  | found (data : Data) (w : Watch σ ρ) (d : Option Mismatch) :
    Together kept wait wait' around ⟨.ok data, w, []⟩ ⟨.ok data, w.withDetail d, []⟩
  | stopped {e : Error} {call : Nat} {data : Data} (raised : wait.finding call data = .error e)
    (w : Watch σ ρ) (d : Option Mismatch) :
    Together kept wait wait' around ⟨.error e, w, []⟩ ⟨.error e, w.withDetail d, []⟩
  | refused (w : Watch σ ρ) (d : Option Mismatch) :
    Together kept wait wait' around ⟨.error .sleepTooLong, w, []⟩
      ⟨.error .sleepTooLong, w.withDetail d, []⟩
  | expired {w : Watch σ ρ} {d : Option Mismatch} (latest : kept w.seen w.detail d)
    (last : w.seen.getLast? = some (around.buffer w.state).snapshot) :
    Together kept wait wait' around (wait.expire around w)
      (wait'.expire around (w.withDetail d))

namespace Wait

variable {kept : List Data → Option Mismatch → Option Mismatch → Prop} {wait wait' : Wait}
  {around : Surroundings σ ε ρ} {w : Watch σ ρ} {d : Option Mismatch}

/-- Sleep neither looks at the latest detail nor changes it, and calls nothing. -/
theorem sleep_withDetail {deadline : Rat} {events rest : List (Scheduled ε)} {woke : Bool}
    {woken : Watch σ ρ} (slept : sleep around deadline events w = (woke, rest, woken))
    (d : Option Mismatch) :
    sleep around deadline events (w.withDetail d) = (woke, rest, woken.withDetail d)
      ∧ woken.seen = w.seen ∧ woken.detail = w.detail := by
  induction events generalizing w with
  | nil =>
    cases slept
    exact ⟨rfl, rfl, rfl⟩
  | cons e later ih =>
    have taken : take around e (w.withDetail d) = (take around e w).withDetail d := rfl
    unfold sleep at slept ⊢
    dsimp only at slept ⊢
    rw [taken, Watch.state_withDetail, Watch.state_withDetail]
    split at slept
    · next due =>
      rw [if_pos due]
      split at slept
      · next noted =>
        rw [if_pos noted]
        cases slept
        exact ⟨rfl, rfl, rfl⟩
      · next quiet =>
        rw [if_neg quiet]
        exact ih slept
    · next notDue =>
      rw [if_neg notDue]
      cases slept
      exact ⟨rfl, rfl, rfl⟩

/-- A call that settles the first wait settles the second one in the same way. -/
theorem Rewords.check_some (same : Rewords kept wait wait') {result : Except Error Data}
    {later : Watch σ ρ} (called : wait.check around w = (some result, later))
    (d : Option Mismatch) :
    wait'.check around (w.withDetail d) = (some result, later.withDetail d) := by
  have settles := same.settles w.seen.length (around.buffer w.state).snapshot
  rw [check_eq wait around w rfl] at called
  rw [check_eq wait' around (w.withDetail d) rfl, Watch.seen_withDetail, Watch.state_withDetail]
  cases found : wait.finding w.seen.length (around.buffer w.state).snapshot with
  | error e =>
    rw [found] at called settles
    cases called
    rw [settles nofun]
    rfl
  | ok mismatch =>
    cases mismatch with
    | none =>
      rw [found] at called settles
      cases called
      rw [settles nofun]
      rfl
    | some m =>
      rw [found] at called
      cases called

/-- A call that fails for the first wait fails for the second one, and the details they then keep
are related. -/
theorem Rewords.check_none (same : Rewords kept wait wait') (latest : kept w.seen w.detail d)
    {failed : Watch σ ρ} (called : wait.check around w = (none, failed)) :
    ∃ d', wait'.check around (w.withDetail d) = (none, failed.withDetail d')
      ∧ kept failed.seen failed.detail d' ∧ failed.state = w.state
      ∧ failed.seen.getLast? = some (around.buffer w.state).snapshot := by
  have fails := same.fails w.seen (around.buffer w.state).snapshot
  rw [check_eq wait around w rfl] at called
  rw [check_eq wait' around (w.withDetail d) rfl, Watch.seen_withDetail, Watch.state_withDetail]
  cases found : wait.finding w.seen.length (around.buffer w.state).snapshot with
  | error e =>
    rw [found] at called
    cases called
  | ok mismatch =>
    cases mismatch with
    | none =>
      rw [found] at called
      cases called
    | some m =>
      rw [found] at called
      cases called
      obtain ⟨m', found', keeps⟩ := fails m found
      rw [found', Watch.remember_eq]
      dsimp only
      rw [Watch.remember_eq]
      exact ⟨m'.keptOver d, rfl, keeps _ _ latest, rfl, List.getLast?_concat⟩

theorem together_of_check {result : Except Error Data}
    {later : Watch σ ρ} (called : wait.check around w = (some result, later))
    (d : Option Mismatch) :
    Waited.Together kept wait wait' around ⟨result, later, []⟩
      ⟨result, later.withDetail d, []⟩ := by
  cases result with
  | ok data => exact .found data later d
  | error e =>
    obtain ⟨call, data, raised⟩ := finding_of_check called
    exact .stopped raised later d

theorem Rewords.checkLast (same : Rewords kept wait wait') (latest : kept w.seen w.detail d) :
    Waited.Together kept wait wait' around (wait.checkLast around w)
      (wait'.checkLast around (w.withDetail d)) := by
  unfold Wait.checkLast
  rcases called : wait.check around w with ⟨_ | result, later⟩
  · obtain ⟨d', called', latest', state, last⟩ := same.check_none latest called
    rw [called']
    exact .expired latest' (by rw [last, state])
  · rw [same.check_some called d]
    exact together_of_check called d

/-- When a call fails in time and nothing is notified, the second wait sleeps as the first one does,
and goes on from where that one wakes. -/
theorem Rewords.proceed_of_slept [Clock] (same : Rewords kept wait wait')
    (latest : kept w.seen w.detail d) {failed woken : Watch σ ρ} {events rest : List (Scheduled ε)}
    {woke : Bool} (called : wait.check around w = (none, failed)) (going : ¬ wait.deadline ≤ w.now)
    (allowed : ¬ Clock.refuses (wait.deadline - w.now) = true)
    (quiet : ¬ notified around w.state (around.settle w.state) = true)
    (slept : sleep around wait.deadline events { failed with state := around.settle w.state }
      = (woke, rest, woken)) :
    ∃ d', kept woken.seen woken.detail d'
      ∧ wait'.proceed around events (w.withDetail d)
        = if woke then wait'.proceed around rest (woken.withDetail d')
          else wait'.checkLast around (woken.withDetail d') := by
  have deadline : wait'.deadline = wait.deadline := congrArg Numeral.value same.timeout
  obtain ⟨d', called', latest', -⟩ := same.check_none latest called
  obtain ⟨slept', seen, detail⟩ := sleep_withDetail slept d'
  have level : { failed.withDetail d' with state := around.settle w.state }
    = { failed with state := around.settle w.state }.withDetail d' := rfl
  refine ⟨d', by rwa [seen, detail], ?_⟩
  rw [proceed_eq wait', called', deadline]
  dsimp only
  rw [Watch.now_withDetail, if_neg going, if_neg allowed, Watch.state_withDetail, if_neg quiet,
    level, slept']
  cases woke with
  | true => rfl
  | false => rfl

theorem Rewords.proceed [Clock] (same : Rewords kept wait wait') (events : List (Scheduled ε))
    (w : Watch σ ρ) : ∀ d, kept w.seen w.detail d →
    Waited.Together kept wait wait' around (wait.proceed around events w)
      (wait'.proceed around events (w.withDetail d)) := by
  have deadline : wait'.deadline = wait.deadline := congrArg Numeral.value same.timeout
  -- The first wait leads, and the second one takes each of its turns.
  fun_induction Wait.proceed wait around events w with
  | case1 events w result later called =>
    intro d latest
    rw [proceed_eq, same.check_some called d]
    exact together_of_check called d
  | case2 events w failed called late =>
    intro d latest
    obtain ⟨d', called', latest', state, last⟩ := same.check_none latest called
    rw [proceed_eq, called', deadline]
    dsimp only
    rw [Watch.now_withDetail, if_pos late]
    exact .expired latest' (by rw [last, state])
  | case3 events w failed called going tooLong =>
    intro d latest
    obtain ⟨d', called', -⟩ := same.check_none latest called
    rw [proceed_eq wait', called', deadline]
    dsimp only
    rw [Watch.now_withDetail, if_neg going, if_pos tooLong]
    exact .refused failed d'
  | case4 events w failed called going allowed settled noted ih =>
    intro d latest
    obtain ⟨d', called', latest', -⟩ := same.check_none latest called
    rw [proceed_eq wait', called', deadline]
    dsimp only
    rw [Watch.now_withDetail, if_neg going, if_neg allowed, Watch.state_withDetail, if_pos noted]
    exact ih d' latest'
  | case5 events w failed called going allowed settled quiet rest woken slept ih =>
    intro d latest
    obtain ⟨d', latest', asleep⟩ := same.proceed_of_slept latest called going allowed quiet slept
    rw [asleep, if_pos rfl]
    exact ih d' latest'
  | case6 events w failed called going allowed settled quiet rest woken slept =>
    intro d latest
    obtain ⟨d', latest', asleep⟩ := same.proceed_of_slept latest called going allowed quiet slept
    rw [asleep, if_neg Bool.false_ne_true]
    exact same.checkLast latest'

/-- Two waits whose predicates say the same in other words end together. -/
theorem Rewords.run [Clock] (same : Rewords kept wait wait')
    (bounded : wait.timeout.isTooLarge = false) (around : Surroundings σ ε ρ)
    (events : List (Scheduled ε)) (s : σ) :
    Waited.Together kept wait wait' around (wait.run around events s)
      (wait'.run around events s) := by
  have begins : (Watch.start s : Watch σ ρ).withDetail none = .start s := rfl
  unfold Wait.run
  rw [same.timeout, bounded, if_neg Bool.false_ne_true, if_neg Bool.false_ne_true, ← begins]
  exact same.proceed (schedule events) (.start s) none same.begins

end Wait

/-! ### Rules that compare -/

namespace Rule

variable {given : Argument} {expected : Data} {operator : Operator}

/-- With an operator that exists, every rule that compares can be made. -/
theorem Compares.make {rule : Rule} (compares : rule.Compares given expected)
    (supported : Operator.read given = .ok operator) :
    Predicate.make rule = .ok (.ofRule rule) := by
  cases compares with
  | operator =>
    unfold Predicate.make check
    rw [supported]
    rfl
  | compare => rfl
  | expect => rfl

/-- The mismatch of a comparison names its operator and shows the data it was made with. -/
theorem mismatch_of_fails {data : Data} {m : Mismatch}
    (fails : AcceptanceBench.compare data expected given = .ok (.fails m)) :
    m.operator ≠ "" ∧ m.observed = data := by
  rcases compare_cases data expected given with ⟨e, same, -⟩ | same | ⟨operator, -, same⟩
  · rw [same] at fails
    cases fails
  · rw [same] at fails
    cases fails
  · rw [same] at fails
    cases fails
    exact ⟨operator.name_ne_empty, rfl⟩

theorem Compares.fails_of_judge {rule : Rule} (compares : rule.Compares given expected)
    {data : Data} {call : Nat} {m : Mismatch}
    (judged : (rule.call data call).judge data = .ok (some m)) :
    AcceptanceBench.compare data expected given = .ok (.fails m) := by
  rw [compares.judge_call] at judged
  rcases compared : AcceptanceBench.compare data expected given with e | _ | m'
  · rw [compared] at judged
    cases judged
  · rw [compared] at judged
    cases judged
  · rw [compared] at judged
    cases judged
    rfl

theorem Compares.error_of_judge {rule : Rule} (compares : rule.Compares given expected)
    {data : Data} {call : Nat} {e : Error}
    (judged : (rule.call data call).judge data = .error e) :
    AcceptanceBench.compare data expected given = .error e := by
  rw [compares.judge_call] at judged
  rcases compared : AcceptanceBench.compare data expected given with e' | outcome
  · rw [compared] at judged
    cases judged
    rfl
  · rw [compared] at judged
    cases judged

/-- A rule that tells only whether a comparison holds means a mismatch without a detail. -/
theorem judge_test (given : Argument) (expected data : Data) (call : Nat) :
    ((test given expected).call data call).judge data
      = (AcceptanceBench.compare data expected given).map
        fun outcome => outcome.mismatch?.map fun _ => ⟨"", .text "", data, ""⟩ := by
  unfold Rule.call
  rcases compare_cases data expected given with ⟨e, same, other⟩ | same | ⟨operator, -, same⟩
  · rw [same]
    exact Verdict.judge_of_not_isAssertion other data
  · rw [same]
    rfl
  · rw [same]
    rfl

variable {rule rule' : Rule} (name : String) (timeout : Numeral)

/-- The ways to write a comparison give the same details. -/
theorem Compares.rewords (compares : rule.Compares given expected)
    (compares' : rule'.Compares given expected) :
    Wait.Rewords (fun _ d d' => d' = d) ⟨name, timeout, .ofRule rule⟩
      ⟨name, timeout, .ofRule rule'⟩ := by
  have finding (call : Nat) (data : Data) :
      (rule'.call data call).judge data = (rule.call data call).judge data :=
    (compares'.judge_call data call).trans (compares.judge_call data call).symm
  refine ⟨rfl, rfl, rfl, fun call data _ => finding call data, ?_⟩
  intro seen data m failed
  refine ⟨m, (finding seen.length data).trans failed, ?_⟩
  rintro d _ rfl
  rfl

/-- A comparison gives a detail on the data it was made with, and a rule that tells only whether it
holds gives none. -/
theorem Compares.rewords_test (compares : rule.Compares given expected) :
    Wait.Rewords (fun seen d d' => d' = none ∧ d.map (·.observed) = seen.getLast?)
      ⟨name, timeout, .ofRule rule⟩ ⟨name, timeout, .ofRule (test given expected)⟩ := by
  refine ⟨rfl, rfl, ⟨rfl, rfl⟩, ?_, ?_⟩
  · intro call data settled
    change ∀ m, (rule.call data call).judge data ≠ _ at settled
    change ((test given expected).call data call).judge data = (rule.call data call).judge data
    rw [compares.judge_call] at settled ⊢
    rw [judge_test]
    rcases compared : AcceptanceBench.compare data expected given with e | _ | m
    · rfl
    · rfl
    · rw [compared] at settled
      exact absurd rfl (settled m)
  · intro seen data m failed
    have fails := compares.fails_of_judge failed
    obtain ⟨named, observed⟩ := mismatch_of_fails fails
    refine ⟨⟨"", .text "", data, ""⟩, ?_, ?_⟩
    · change ((test given expected).call data seen.length).judge data = _
      rw [judge_test, fails]
      rfl
    · rintro d _ ⟨rfl, -⟩
      refine ⟨rfl, ?_⟩
      rw [Mismatch.keptOver, if_neg named, List.getLast?_concat, ← observed]
      rfl

end Rule

/-! ### Waits on a buffer -/

/-- Whether the error reports that the time of a wait was up. -/
def Error.isTimeout : Error → Bool
  | .lastMismatch _ _ _ | .noMatch _ _ _ => true
  | _ => false

theorem compare_not_isTimeout {given : Argument} {operator : Operator} {observed expected : Data}
    {e : Error} (supported : Operator.read given = .ok operator)
    (failed : compare observed expected given = .error e) : e.isTimeout = false := by
  unfold compare at failed
  rw [supported] at failed
  change operator.compare observed expected = .error e at failed
  cases holds : operator.holds observed (expected.alongside observed) with
  | ok answer =>
    rw [Operator.compare_of_holds holds] at failed
    cases failed
  | error e' =>
    rw [Operator.compare_of_error holds] at failed
    cases failed
    obtain rfl | ⟨defect, rfl⟩ := Operator.error_of_holds holds
    · rfl
    · rfl

/-- How a wait ends that is told only whether a comparison holds, beside one on the same buffer that
is given the mismatch. -/
inductive Undetailed (name : String) :
    Option Numeral → Except Error Reply → Except Error Reply → Prop
  | found (timeout : Option Numeral) (data : Data) :
    Undetailed name timeout (.ok (.data data)) (.ok (.data data))
  | timedOut (timeout : Numeral) (elapsed : Rat) (m : Mismatch) :
    Undetailed name (some timeout) (.error (.lastMismatch name elapsed m))
      (.error (.noMatch name timeout m.observed))
  | stopped (timeout : Option Numeral) {e : Error} (other : e.isTimeout = false) :
    Undetailed name timeout (.error e) (.error e)

namespace BufferBench

variable {given : Argument} {expected : Data} {operator : Operator} {rule rule' : Rule}

theorem run_of_tooLarge [Clock] {timeout : Numeral} (large : timeout.isTooLarge = true)
    (name : String) (predicate : Predicate) (events : List (Scheduled BufferAct))
    (s : BufferBench) :
    (Wait.mk name timeout predicate).run surroundings events s
      = ⟨.error .numberTooLarge, .start s, []⟩ := by
  unfold Wait.run
  exact if_pos large

theorem waitFor_eq_of_compares [Clock] (supported : Operator.read given = .ok operator)
    (compares : rule.Compares given expected) (compares' : rule'.Compares given expected)
    (timeout : Option Numeral) (events : List (Scheduled BufferAct)) (s : BufferBench) :
    s.waitFor rule' timeout events = s.waitFor rule timeout events := by
  unfold waitFor
  rw [compares.make supported, compares'.make supported]
  cases timeout with
  | none => rfl
  | some timeout =>
    dsimp only
    cases large : timeout.isTooLarge with
    | true => rw [run_of_tooLarge large, run_of_tooLarge large]
    | false =>
      have together :=
        (compares.rewords s.buffer.name timeout compares').run large surroundings events s
      generalize Wait.run _ surroundings events s = first at together ⊢
      generalize Wait.run _ surroundings events s = second at together ⊢
      cases together with
      | found data w d => rfl
      | stopped raised w d => rfl
      | refused w d => rfl
      | expired latest last =>
        subst latest
        rfl

theorem waitFor_test [Clock] (supported : Operator.read given = .ok operator)
    (compares : rule.Compares given expected) (timeout : Option Numeral)
    (events : List (Scheduled BufferAct)) (s : BufferBench) :
    let answer := s.waitFor rule timeout events
    let told := s.waitFor (.test given expected) timeout events
    told.waiting = answer.waiting ∧ told.after.buffer = answer.after.buffer
      ∧ Undetailed s.buffer.name timeout answer.result told.result := by
  have made : Predicate.make (.test given expected) = .ok (.ofRule (.test given expected)) := rfl
  unfold waitFor
  rw [compares.make supported, made]
  cases timeout with
  | none => exact ⟨rfl, rfl, .stopped _ rfl⟩
  | some timeout =>
    dsimp only
    cases large : timeout.isTooLarge with
    | true =>
      rw [run_of_tooLarge large, run_of_tooLarge large]
      exact ⟨rfl, rfl, .stopped _ rfl⟩
    | false =>
      have together :=
        (compares.rewords_test s.buffer.name timeout).run large surroundings events s
      generalize Wait.run _ surroundings events s = first at together ⊢
      generalize Wait.run _ surroundings events s = second at together ⊢
      cases together with
      | found data w d => exact ⟨rfl, rfl, .found _ data⟩
      | stopped raised w d =>
        refine ⟨rfl, rfl, .stopped _ ?_⟩
        exact compare_not_isTimeout supported (compares.error_of_judge raised)
      | refused w d => exact ⟨rfl, rfl, .stopped _ rfl⟩
      | @expired w d latest last =>
        obtain ⟨rfl, observed⟩ := latest
        rw [last, Option.map_eq_some_iff] at observed
        obtain ⟨m, detail, observed⟩ := observed
        refine ⟨rfl, rfl, ?_⟩
        have reported : Undetailed s.buffer.name (some timeout) _ _ := .timedOut timeout w.now m
        rw [observed] at reported
        unfold Wait.expire
        rw [detail]
        exact reported

/-- With an operator that exists, it is the same to wait for a comparison, for a function that
returns the outcome of a comparison, or for one that raises its mismatch. A function that tells only
whether the comparison holds is called on the same data at the same times, and the wait ends with
the same data or the same error, but a time that is up is reported without a detail. -/
theorem waitFor_rewords [Clock] (supported : Operator.read given = .ok operator) (expected : Data)
    (timeout : Option Numeral) (events : List (Scheduled BufferAct)) (s : BufferBench) :
    let answer := s.waitFor (.operator given expected) timeout events
    let told := s.waitFor (.test given expected) timeout events
    s.waitFor (.compare given expected) timeout events = answer
      ∧ s.waitFor (.expect given expected) timeout events = answer
      ∧ told.waiting = answer.waiting ∧ told.after.buffer = answer.after.buffer
      ∧ Undetailed s.buffer.name timeout answer.result told.result := by
  intro answer told
  refine ⟨?_, ?_, ?_⟩
  · exact waitFor_eq_of_compares supported .operator .compare timeout events s
  · exact waitFor_eq_of_compares supported .operator .expect timeout events s
  · exact waitFor_test supported .operator timeout events s

/-- Text that does not do is discarded before the time is up. -/
def discarding : List (Scheduled BufferAct) :=
  [⟨1 / 2, .reset⟩]

/-- The last call finds nothing, which is reported with the mismatch or without. -/
theorem waitFor_rewords_ready :
    letI : Clock := .threads
    let given : Argument := .text "starts-with"
    let expected : Data := .bytes [82, 69, 65, 68, 89]
    let s : BufferBench := ⟨(Buffer.empty "Serial").append [87, 65, 73, 84], []⟩
    Operator.read given = .ok .startWith
      ∧ (s.waitFor (.expect given expected) (some 1) discarding).result
        = .error (.lastMismatch "Serial" 1 ⟨"start with", .text "READY", .text "", ""⟩)
      ∧ (s.waitFor (.test given expected) (some 1) discarding).result
        = .error (.noMatch "Serial" 1 (.text "")) := by
  let _ : Clock := .threads
  intro given expected s
  have ended : (s.waitFor (.operator given expected) (some 1) discarding).result
      = .error (.lastMismatch "Serial" 1 ⟨"start with", .text "READY", .text "", ""⟩) := by
    have small : (1 : Numeral).isTooLarge = false := by decide +kernel
    have sorted : schedule discarding = discarding :=
      List.mergeSort_of_pairwise (by decide +kernel)
    have result : ((Wait.mk "Serial" 1 (.ofRule (.operator given expected))).run surroundings
        discarding s).result
          = .error (.lastMismatch "Serial" 1 ⟨"start with", .text "READY", .text "", ""⟩) := by
      rw [Wait.run, small, sorted, if_neg Bool.false_ne_true, Wait.proceed_eq]
      decide +kernel
    exact congrArg (replyWith .data) result
  have supported : Operator.read given = .ok .startWith := rfl
  obtain ⟨-, expect, -, -, undetailed⟩ := waitFor_rewords supported expected (some 1) discarding s
  refine ⟨supported, expect ▸ ended, ?_⟩
  rw [ended] at undetailed
  generalize (s.waitFor (.test given expected) (some 1) discarding).result = result at undetailed ⊢
  cases undetailed with
  | timedOut => rfl
  | stopped _ other => cases other

end BufferBench

end AcceptanceBench
