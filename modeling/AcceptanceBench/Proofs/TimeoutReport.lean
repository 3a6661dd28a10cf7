import AcceptanceBench.Proofs.Received
import AcceptanceBench.Proofs.WaitEnd

/-!
What a wait reports whose time is up. Among the calls of its predicate, all of which failed, the
latest that gave a detail is reported, whatever the calls after it said; if there is none, the data
of the last call is shown. A comparison gives a detail whenever it fails.
-/

namespace AcceptanceBench

namespace Verdict

/-- Verdicts that fail and let the wait go on. -/
inductive Fails : Verdict → Prop
  | answered : Fails (.answered false)
  | compared (m : Mismatch) : Fails (.compared (.fails m))
  | expected (m : Mismatch) : Fails (.raised (.expectation m))
  | asserted {f : Fault} (kind : f.kind = .assertion) : Fails (.raised (.fault f))

/-- The detail that a verdict on some data gives: its mismatch, if that names an operator, or the
text of an assertion, in place of which the name of its kind stands if it has none. -/
inductive Details (data : Data) : Verdict → Mismatch → Prop
  | compared {m : Mismatch} (named : m.operator ≠ "") : Details data (.compared (.fails m)) m
  | expected {m : Mismatch} (named : m.operator ≠ "") : Details data (.raised (.expectation m)) m
  | asserted {f : Fault} (kind : f.kind = .assertion) :
    Details data (.raised (.fault f))
      ⟨"assert", .text "", data, if f.text = "" then "AssertionError" else f.text⟩

variable {v : Verdict} {data : Data}

theorem Fails.judge (fails : v.Fails) (data : Data) : ∃ m, v.judge data = .ok (some m) := by
  cases fails with
  | answered => exact ⟨_, rfl⟩
  | compared m => exact ⟨m, rfl⟩
  | expected m => exact ⟨m, rfl⟩
  | asserted kind => exact ⟨_, if_pos kind⟩

/-- What is remembered of a failed verdict is its detail. -/
theorem Fails.details_iff (fails : v.Fails) {m : Mismatch} (judged : v.judge data = .ok (some m))
    (m' : Mismatch) : v.Details data m' ↔ m.operator ≠ "" ∧ m' = m := by
  cases fails with
  | answered =>
    cases judged
    exact iff_of_false nofun fun named => named.1 rfl
  | compared =>
    cases judged
    constructor
    · rintro (named | named | kind)
      exact ⟨named, rfl⟩
    · rintro ⟨named, rfl⟩
      exact .compared named
  | expected =>
    cases judged
    constructor
    · rintro (named | named | kind)
      exact ⟨named, rfl⟩
    · rintro ⟨named, rfl⟩
      exact .expected named
  | asserted kind =>
    have told := (if_pos kind).symm.trans judged
    rw [kind] at told
    cases told
    constructor
    · rintro (named | named | kind)
      exact ⟨(by decide : "assert" ≠ ""), rfl⟩
    · rintro ⟨-, rfl⟩
      exact .asserted kind

end Verdict

/-! ### Comparisons -/

theorem Operator.name_ne_empty (operator : Operator) : operator.name ≠ "" := by
  cases operator <;> decide

/-- An operator fails only over a pattern. -/
theorem Operator.error_of_holds {operator : Operator} {observed expected : Data} {e : Error}
    (failed : operator.holds observed expected = .error e) :
    e = .crossedGroup ∨ ∃ defect, e = .badPattern defect observed.isText := by
  cases operator with
  | matching =>
    unfold holds at failed
    dsimp only at failed
    split at failed
    · split at failed
      · cases failed
      · cases failed
      · cases failed
        exact Or.inl rfl
    · cases failed
      exact Or.inr ⟨_, rfl⟩
  | _ => cases failed

theorem Operator.not_isAssertion_of_holds {operator : Operator} {observed expected : Data}
    {e : Error} (failed : operator.holds observed expected = .error e) : e.isAssertion = false := by
  obtain rfl | ⟨defect, rfl⟩ := error_of_holds failed
  · rfl
  · rfl

theorem Operator.compare_of_error {operator : Operator} {observed expected : Data} {e : Error}
    (failed : operator.holds observed (expected.alongside observed) = .error e) :
    operator.compare observed expected = .error e := by
  unfold compare
  dsimp only
  rw [failed]
  rfl

/-- A comparison cannot be made, which is no assertion, or it holds, or it fails with a mismatch
that says what was compared and how. -/
theorem compare_cases (observed expected : Data) (given : Argument) :
    (∃ e, compare observed expected given = .error e ∧ e.isAssertion = false)
      ∨ compare observed expected given = .ok .holds
      ∨ ∃ operator, Operator.read given = .ok operator ∧ compare observed expected given
        = .ok (.fails ⟨operator.name, expected.alongside observed, observed, ""⟩) := by
  unfold compare
  cases reads : Operator.read given with
  | error e =>
    unfold Operator.read at reads
    split at reads
    · cases reads
    · cases reads
      exact Or.inl ⟨_, rfl, rfl⟩
  | ok operator =>
    cases holds : operator.holds observed (expected.alongside observed) with
    | error e =>
      exact Or.inl ⟨e, Operator.compare_of_error holds, Operator.not_isAssertion_of_holds holds⟩
    | ok answer =>
      have compared := Operator.compare_of_holds holds
      cases answer with
      | true => exact Or.inr (Or.inl compared)
      | false => exact Or.inr (Or.inr ⟨operator, rfl, compared⟩)

/-- The mismatch of a comparison that fails. -/
def Outcome.mismatch? : Outcome → Option Mismatch
  | .holds => none
  | .fails m => some m

theorem Verdict.judge_of_not_isAssertion {e : Error} (other : e.isAssertion = false) (data : Data) :
    (Verdict.raised e).judge data = .error e := by
  cases e with
  | expectation m => cases other
  | fault f => exact if_neg (beq_eq_false_iff_ne.mp other)
  | _ => rfl

/-- A rule that compares data and gives the mismatch, or raises it. -/
inductive Rule.Compares (given : Argument) (expected : Data) : Rule → Prop
  | operator : Compares given expected (.operator given expected)
  | compare : Compares given expected (.compare given expected)
  | expect : Compares given expected (.expect given expected)

namespace Rule.Compares

variable {rule : Rule} {given : Argument} {expected : Data}

/-- However it is given, a comparison means its mismatch. -/
theorem judge_call (compares : rule.Compares given expected) (data : Data) (call : Nat) :
    (rule.call data call).judge data
      = (AcceptanceBench.compare data expected given).map Outcome.mismatch? := by
  have compared : (Verdict.ofComparison (AcceptanceBench.compare data expected given)).judge data
      = (AcceptanceBench.compare data expected given).map Outcome.mismatch? := by
    rcases compare_cases data expected given with ⟨e, same, other⟩ | same | ⟨operator, -, same⟩
    · rw [same]
      exact Verdict.judge_of_not_isAssertion other data
    · rw [same]
      rfl
    · rw [same]
      rfl
  cases compares with
  | operator =>
    unfold Rule.call
    exact compared
  | compare =>
    unfold Rule.call
    exact compared
  | expect =>
    unfold Rule.call AcceptanceBench.expect
    rcases compare_cases data expected given with ⟨e, same, other⟩ | same | ⟨operator, -, same⟩
    · rw [same]
      exact Verdict.judge_of_not_isAssertion other data
    · rw [same]
      rfl
    · rw [same]
      rfl

/-- A failed comparison gives a detail: the operator by its own name, the expected data brought to
the kind of the observed data, and the observed data. -/
theorem details_iff {data : Data} {call : Nat} (compares : rule.Compares given expected)
    (fails : (rule.call data call).Fails) :
    ∃ operator, Operator.read given = .ok operator
      ∧ ∀ m, (rule.call data call).Details data m
        ↔ m = ⟨operator.name, expected.alongside data, data, ""⟩ := by
  obtain ⟨m, judged⟩ := fails.judge data
  have means := (compares.judge_call data call).symm.trans judged
  rcases compare_cases data expected given with ⟨e, same, -⟩ | same | ⟨operator, reads, same⟩
  · rw [same] at means
    cases means
  · rw [same] at means
    cases means
  · rw [same] at means
    cases means
    refine ⟨operator, reads, fun m => ?_⟩
    exact (fails.details_iff judged m).trans (and_iff_right operator.name_ne_empty)

end Rule.Compares

theorem Data.isText_alongside (expected observed : Data) :
    (expected.alongside observed).isText = observed.isText := by
  cases observed <;> cases expected <;> rfl

/-! ### The latest detail -/

/-- The predicate was called on the data, and every call failed. -/
structure Predicate.TimesOut (predicate : Predicate) (seen : List Data) : Prop where
  called : seen ≠ []
  failed : ∀ call data, seen[call]? = some data → (predicate call data).Fails

/-- A call gave a detail, and no call after it did. -/
structure Predicate.Latest (predicate : Predicate) (seen : List Data) (call : Nat) (data : Data)
    (m : Mismatch) : Prop where
  made : seen[call]? = some data
  gives : (predicate call data).Details data m
  silent : ∀ later data', call < later → seen[later]? = some data' →
    ∀ m', ¬ (predicate later data').Details data' m'

namespace Wait

variable {wait : Wait} {call : Nat} {data : Data} {m : Mismatch}

theorem detail?_eq_some_iff (fails : (wait.predicate call data).Fails) :
    wait.detail? call data = some m ↔ (wait.predicate call data).Details data m := by
  obtain ⟨m', judged⟩ := fails.judge data
  rw [fails.details_iff judged, detail?, finding, judged]
  by_cases bare : m'.operator = ""
  · simp [bare]
  · simp [bare, eq_comm]

/-- The last of the details is that of the latest call that gave one. -/
theorem getLast?_details (wait : Wait) (seen : List Data) :
    match (wait.details seen).getLast? with
    | some m => ∃ call data, seen[call]? = some data ∧ wait.detail? call data = some m
      ∧ ∀ later data', call < later → seen[later]? = some data' → wait.detail? later data' = none
    | none => ∀ call data, seen[call]? = some data → wait.detail? call data = none := by
  induction seen using List.reverseRecOn with
  | nil => exact nofun
  | append_singleton seen data ih =>
    have places {call : Nat} {data' : Data} (made : (seen ++ [data])[call]? = some data') :
        seen[call]? = some data' ∨ call = seen.length ∧ data' = data := by
      rw [List.getElem?_append] at made
      split at made
      · exact Or.inl made
      · rw [List.getElem?_singleton] at made
        split at made
        · exact Or.inr ⟨by omega, (Option.some.inj made).symm⟩
        · cases made
    rw [details_append]
    cases given : wait.detail? seen.length data with
    | some m =>
      simp only [Option.toList_some, List.getLast?_append, List.getLast?_singleton, Option.some_or]
      refine ⟨seen.length, data, by simp, given, fun later data' after made => ?_⟩
      have inside := (List.getElem?_eq_some_iff.mp made).1
      rw [List.length_append, List.length_singleton] at inside
      omega
    | none =>
      rw [Option.toList_none, List.append_nil]
      cases last : (wait.details seen).getLast? with
      | some m =>
        rw [last] at ih
        obtain ⟨call, data', made, gives, silent⟩ := ih
        have inside := (List.getElem?_eq_some_iff.mp made).1
        refine ⟨call, data', (List.getElem?_append_left inside).trans made, gives,
          fun later data'' after place => ?_⟩
        rcases places place with earlier | ⟨rfl, rfl⟩
        · exact silent later data'' after earlier
        · exact given
      | none =>
        rw [last] at ih
        intro call data' made
        rcases places made with earlier | ⟨rfl, rfl⟩
        · exact ih call data' earlier
        · exact given

/-- The detail reported is the latest, if any call gave one. -/
theorem latest_of_details {seen : List Data} (timesOut : wait.predicate.TimesOut seen) :
    match (wait.details seen).getLast? with
    | some m => ∃ call data, wait.predicate.Latest seen call data m
    | none => ∀ call data m, seen[call]? = some data →
      ¬ (wait.predicate call data).Details data m := by
  have gives {call : Nat} {data : Data} {m : Mismatch} (made : seen[call]? = some data) :=
    @detail?_eq_some_iff wait call data m (timesOut.failed call data made)
  have latest := wait.getLast?_details seen
  cases last : (wait.details seen).getLast? with
  | some m =>
    rw [last] at latest
    obtain ⟨call, data, made, detail, silent⟩ := latest
    refine ⟨call, data, made, (gives made).mp detail, fun later data' after made' m' given => ?_⟩
    have told := (gives made').mpr given
    rw [silent later data' after made'] at told
    cases told
  | none =>
    rw [last] at latest
    intro call data m made given
    have told := (gives made).mpr given
    rw [latest call data made] at told
    cases told

end Wait

/-! ### The report -/

/-- What a wait on the buffer of this name reports whose time is up, after its predicate was called
on `seen`. -/
structure TimeoutReport (name : String) (timeout : Numeral) (elapsed : Rat) (predicate : Predicate)
    (seen : List Data) (e : Error) : Prop where
  detailed : (∃ m, e = .lastMismatch name elapsed m)
    ↔ ∃ call data m, seen[call]? = some data ∧ (predicate call data).Details data m
  latest : ∀ m, e = .lastMismatch name elapsed m → ∃ call data, predicate.Latest seen call data m
  bare : (¬ ∃ m, e = .lastMismatch name elapsed m) →
    ∃ last, seen.getLast? = some last ∧ e = .noMatch name timeout last
      ∧ ∃ before after, e.message = before ++ last.quoted ++ after
  named : ∃ rest, e.message = name ++ rest

theorem Error.message_lastMismatch (name : String) (elapsed : Rat) (m : Mismatch) :
    (Error.lastMismatch name elapsed m).message
      = name ++ (" output doesn't match after " ++ (fixed 2 elapsed ++ ("s: " ++ m.describe))) := by
  rw [← String.append_assoc, ← String.append_assoc, ← String.append_assoc]
  rfl

theorem Error.message_noMatch (name : String) (timeout : Numeral) (observed : Data) :
    (Error.noMatch name timeout observed).message
      = name ++ (" output doesn't match expected data (no match within " ++ (timeout.fixed 2
        ++ ("s, observed " ++ (observed.quoted ++ ")")))) := by
  rw [← String.append_assoc, ← String.append_assoc, ← String.append_assoc, ← String.append_assoc]
  rfl

namespace Wait

variable {wait : Wait} {elapsed : Rat}

theorem reports_timeoutError {seen : List Data} {last : Data}
    (timesOut : wait.predicate.TimesOut seen) (final : seen.getLast? = some last) :
    TimeoutReport wait.name wait.timeout elapsed wait.predicate seen
      (wait.timeoutError elapsed seen last) := by
  have latest := latest_of_details timesOut
  unfold timeoutError
  cases given : (wait.details seen).getLast? with
  | some m =>
    rw [given] at latest
    obtain ⟨call, data, latest⟩ := latest
    refine ⟨iff_of_true ⟨m, rfl⟩ ⟨call, data, m, latest.made, latest.gives⟩, fun m' same => ?_,
      fun none => absurd ⟨m, rfl⟩ none, _, Error.message_lastMismatch ..⟩
    cases same
    exact ⟨call, data, latest⟩
  | none =>
    rw [given] at latest
    have silent : ¬ ∃ call data m, seen[call]? = some data
        ∧ (wait.predicate call data).Details data m :=
      fun ⟨call, data, m, made, gives⟩ => latest call data m made gives
    exact ⟨iff_of_false nofun silent, nofun, fun _ => ⟨last, final, rfl, _, ")", rfl⟩, _,
      Error.message_noMatch ..⟩

end Wait

namespace BufferBench

variable {predicate : Predicate} {timeout : Numeral} {events : List (Scheduled BufferAct)}
  {s : BufferBench}

section Clocked

variable [Clock]

/-- A wait for a predicate on the buffer, as it ends. -/
def waited (predicate : Predicate) (timeout : Numeral) (events : List (Scheduled BufferAct))
    (s : BufferBench) : Waited BufferBench (Answer BufferBench) :=
  (Wait.mk s.buffer.name timeout predicate).run surroundings events s

/-- A wait that calls its predicate without success goes on to the deadline and calls it on every
occasion, unless the clock refuses to sleep for so long, which ends the wait after the first call.
It then reports the latest detail, if any call gave one, whatever later calls said, and otherwise
the data of the last call; in both cases the report names the buffer. A call that compares gives a
detail with the operator's own name, the expected data brought to the kind of the observed data, and
just the data of that call. -/
theorem waited_reports
    (timesOut : predicate.TimesOut (waited predicate timeout events s).watch.seen) :
    let ended := waited predicate timeout events s
    let seen := ended.watch.seen
    if 0 < timeout.value ∧ Clock.refuses timeout.value then
      ended.result = .error .sleepTooLong ∧ ended.watch.now = 0 ∧ seen = [s.buffer.snapshot]
    else ended.watch.now = max 0 timeout.value
      ∧ seen = (occasions timeout.value events).map (·.data s.buffer.data)
      ∧ (∃ e, ended.result = .error e
        ∧ TimeoutReport s.buffer.name timeout ended.watch.now predicate seen e)
      ∧ ∀ call data given expected (rule : Rule), seen[call]? = some data →
        rule.Compares given expected → predicate call data = rule.call data call →
        ∃ operator, Operator.read given = .ok operator
          ∧ (expected.alongside data).isText = data.isText
          ∧ ∀ m, (predicate call data).Details data m
            ↔ m = ⟨operator.name, expected.alongside data, data, ""⟩ := by
  intro ended seen
  have bounded : timeout.isTooLarge = false := by
    cases large : timeout.isTooLarge with
    | false => rfl
    | true =>
      have refused : (waited predicate timeout events s).watch.seen = [] := by
        unfold waited Wait.run
        rw [if_pos large]
        rfl
      exact absurd refused timesOut.called
  let wait : Wait := ⟨s.buffer.name, timeout, predicate⟩
  have ways := wait.run_endsAt events s
  rw [show wait.timeout.isTooLarge = false from bounded, if_neg Bool.false_ne_true] at ways
  have refused_iff : wait.isRefused = true ↔ 0 < timeout.value ∧ Clock.refuses timeout.value :=
    Wait.isRefused_iff
  by_cases long : 0 < timeout.value ∧ Clock.refuses timeout.value
  · rw [if_pos long]
    by_cases refused : wait.Refused s.buffer.snapshot
    · obtain ⟨result, now, called, -⟩ := ways.1 refused
      exact ⟨result, now, called⟩
    · -- The first call has failed as well, so the wait is refused its sleep after all.
      obtain ⟨n, o, ends⟩ := ways.2 refused
      have first := (timesOut.failed 0 _ ends.first).judge s.buffer.snapshot
      exact absurd ⟨refused_iff.mpr long, first⟩ refused
  rw [if_neg long]
  have allowed : ¬ wait.Refused s.buffer.snapshot := fun ⟨asked, _⟩ => long (refused_iff.mp asked)
  obtain ⟨n, o, ends⟩ := ways.2 allowed
  have called : seen = _ := ends.called
  have final : seen[n]? = some (o.data s.buffer.data) := by
    rw [called, List.getElem?_map, List.getElem?_take_of_lt (Nat.lt_succ_self n), ends.place]
    rfl
  obtain ⟨m, judged⟩ := (timesOut.failed n _ final).judge (o.data s.buffer.data)
  have result := ends.result
  rw [Wait.finding, judged] at result
  obtain ⟨all, now, result⟩ := result
  have seen_eq : seen = (occasions timeout.value events).map (·.data s.buffer.data) := by
    rw [called, all, List.take_length]
    rfl
  have last : seen.getLast? = some (o.data s.buffer.data) := by
    have length : n + 1 = seen.length := by
      rw [seen_eq, List.length_map]
      exact all
    rw [List.getLast?_eq_getElem?, ← length]
    exact final
  refine ⟨now, seen_eq, ⟨_, result, ?_⟩, ?_⟩
  · exact @Wait.reports_timeoutError ⟨s.buffer.name, timeout, predicate⟩ _ _ _ timesOut last
  intro call data given expected rule made compares same
  have fails := timesOut.failed call data made
  rw [same] at fails ⊢
  obtain ⟨operator, reads, details⟩ := compares.details_iff fails
  exact ⟨operator, reads, expected.isText_alongside data, details⟩

/-- A wait that can begin, by a clock that can sleep for as long, times out if its predicate fails
on every occasion. -/
theorem timesOut_of_fails (bounded : timeout.isTooLarge = false)
    (allowed : Clock.refuses timeout.value = false)
    (fails : ∀ call o, (occasions timeout.value events)[call]? = some o →
      (predicate call (o.data s.buffer.data)).Fails) :
    predicate.TimesOut (waited predicate timeout events s).watch.seen := by
  let wait : Wait := ⟨s.buffer.name, timeout, predicate⟩
  obtain ⟨n, o, ends⟩ :=
    wait.exists_endsAt bounded (wait.not_refused allowed s.buffer.snapshot) events
  have called : (waited predicate timeout events s).watch.seen = _ := ends.called
  rw [called]
  refine ⟨called ▸ ends.seen_ne_nil, fun call data made => ?_⟩
  rw [List.getElem?_map, Option.map_eq_some_iff] at made
  obtain ⟨o', made, rfl⟩ := made
  rw [List.getElem?_take] at made
  split at made
  · exact fails call o' made
  · cases made

end Clocked

/-- An assertion without a text comes first, then a comparison, and then nothing more. -/
def wavering : Predicate
  | 0, _ => .raised (.fault ⟨.assertion, ""⟩)
  | 1, data => (Rule.compare (.text "starts-with") (.bytes [82, 69, 65, 68, 89])).call data 1
  | _, _ => .answered false

/-- The buffer is reset after something has arrived. -/
def interrupted : List (Scheduled BufferAct) :=
  [⟨1 / 4, .append (.text "WAIT\r\n")⟩, ⟨1 / 2, .reset⟩, ⟨3 / 4, .notify⟩]

/-- The comparison is reported, with what it saw. -/
theorem waited_reports_wavering :
    letI : Clock := .threads
    let s : BufferBench := ⟨.empty "Serial", []⟩
    let ended := waited wavering 1 interrupted s
    wavering.TimesOut ended.watch.seen
      ∧ ended.result
        = .error (.lastMismatch "Serial" 1 ⟨"start with", .text "READY", .text "WAIT", ""⟩) := by
  let _ : Clock := .threads
  intro s ended
  have second : (1 : Numeral).value = 1 := by decide +kernel
  have comes : (occasions 1 interrupted).map (·.data [])
      = [.text "", .text "WAIT", .text "", .text ""] := by
    have sorted : schedule interrupted = interrupted :=
      List.mergeSort_of_pairwise (by decide +kernel)
    rw [occasions, sorted]
    decide +kernel
  have compared : wavering 1 (.text "WAIT")
      = .compared (.fails ⟨"start with", .text "READY", .text "WAIT", ""⟩) := by
    decide +kernel
  have timesOut : wavering.TimesOut ended.watch.seen := by
    refine timesOut_of_fails (by decide +kernel) (by decide +kernel) fun call o made => ?_
    rcases call with _ | _ | call
    · exact .asserted rfl
    · have data : o.data [] = .text "WAIT" := by
        have seen : ((occasions 1 interrupted).map (·.data []))[1]? = some (.text "WAIT") :=
          congrArg (·[1]?) comes
        rw [second, Nat.zero_add] at made
        rw [List.getElem?_map, made] at seen
        exact Option.some.inj seen
      change (wavering 1 (o.data [])).Fails
      rw [data, compared]
      exact .compared _
    · exact .answered
  have reports := waited_reports timesOut
  rw [if_neg (by decide +kernel)] at reports
  obtain ⟨now, seen, ⟨e, result, report⟩, compares⟩ := reports
  have made : ended.watch.seen[1]? = some (.text "WAIT") := by
    rw [second] at seen
    exact congrArg (·[1]?) (seen.trans comes)
  obtain ⟨operator, reads, -, details⟩ := compares 1 _ _ _ _ made .compare rfl
  cases reads
  obtain ⟨m, rfl⟩ := report.detailed.mpr ⟨1, _, _, made, (details _).mpr rfl⟩
  obtain ⟨call, data, latest⟩ := report.latest m rfl
  refine ⟨timesOut, ?_⟩
  rcases call with _ | _ | call
  · exact absurd ((details _).mpr rfl) (latest.silent 1 _ Nat.zero_lt_one made _)
  · cases Option.some.inj (made.symm.trans latest.made)
    have brought : (Data.bytes [82, 69, 65, 68, 89]).alongside (.text "WAIT") = .text "READY" := by
      decide +kernel
    have clock : (waited wavering 1 interrupted s).watch.now = 1 := now.trans (by decide +kernel)
    rw [result, clock, (details m).mp latest.gives, brought]
    rfl
  · cases latest.gives

end BufferBench

end AcceptanceBench
