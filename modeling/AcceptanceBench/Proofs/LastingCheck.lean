import AcceptanceBench.Proofs.Received
import AcceptanceBench.Proofs.WaitEnd

/-!
Checks whose verdict does not depend on timing. A text that is looked for at the front or anywhere
stays where it was found, so a wait for it succeeds exactly if all bytes together show it, however
they are cut into chunks and whenever these arrive.
-/

namespace AcceptanceBench

/-- The bytes that an act adds to a buffer. -/
def BufferAct.appended : BufferAct → Bytes
  | .append data => data.toBytes
  | .reset | .snapshot | .notify | .refused => []

/-- All that a buffer has been given before a deadline, if it held `initial` at the start. -/
def arrivedBefore (deadline : Rat) (initial : Bytes) (events : List (Scheduled BufferAct)) :
    Bytes :=
  initial ++ ((schedule events).filter (·.time < deadline)).flatMap (·.event.appended)

/-- A schedule without a reset and without an event at the deadline. -/
structure Undisturbed (deadline : Rat) (events : List (Scheduled BufferAct)) : Prop where
  kept : ∀ e ∈ events, e.event ≠ .reset
  apart : ∀ e ∈ events, e.time ≠ deadline

/-- The step returned something. -/
def StepAnswer.Succeeds {σ : Type} (a : StepAnswer σ) : Prop :=
  ∃ reply, a.result = .ok reply

/-! ### The occasions of an undisturbed wait -/

theorem contentAfter_of_kept (initial : Bytes) {acts : List BufferAct}
    (kept : ∀ act ∈ acts, act ≠ .reset) :
    contentAfter initial acts = initial ++ acts.flatMap BufferAct.appended := by
  induction acts generalizing initial with
  | nil => simp [contentAfter]
  | cons act rest ih =>
    have later := ih (act.apply initial) fun other there =>
      kept other (List.mem_cons_of_mem act there)
    have applied : act.apply initial = initial ++ act.appended := by
      cases act with
      | reset => exact absurd rfl (kept .reset List.mem_cons_self)
      | append data => rfl
      | snapshot | notify | refused => exact (List.append_nil initial).symm
    rw [contentAfter] at later ⊢
    rw [List.foldl_cons, later, applied, List.flatMap_cons, List.append_assoc]

/-- An occasion comes up with an event, after the acts of the events before it. -/
theorem exists_of_mem_wakings {past : List BufferAct} {events : List (Scheduled BufferAct)}
    {o : Occasion} (comes : o ∈ wakings past events) :
    ∃ before e after, events = before ++ e :: after
      ∧ o = ⟨max 0 e.time, past ++ (before ++ [e]).map (·.event)⟩ := by
  induction events generalizing past with
  | nil => cases comes
  | cons e rest ih =>
    have later (onward : o ∈ wakings (past ++ [e.event]) rest) : ∃ before d after,
        e :: rest = before ++ d :: after
          ∧ o = ⟨max 0 d.time, past ++ (before ++ [d]).map (·.event)⟩ := by
      obtain ⟨before, d, after, rfl, rfl⟩ := ih onward
      exact ⟨e :: before, d, after, rfl, by simp⟩
    rw [wakings] at comes
    split at comes
    · rcases List.mem_cons.mp comes with rfl | onward
      · exact ⟨[], e, rest, rfl, rfl⟩
      · exact later onward
    · exact later comes

/-- Where only the last occasion can be at the deadline, all of them count. -/
theorem throughDeadline_concat {deadline : Rat} {early : List Occasion} (last : Occasion)
    (before : ∀ o ∈ early, o.time < deadline) :
    throughDeadline deadline (early ++ [last]) = early ++ [last] := by
  induction early with
  | nil =>
    rw [List.nil_append, throughDeadline]
    split
    · rfl
    · rfl
  | cons o rest ih =>
    have others := ih fun later there => before later (List.mem_cons_of_mem o there)
    have early := not_le.mpr (before o List.mem_cons_self)
    rw [List.cons_append, throughDeadline, if_neg early, others]

variable {deadline : Rat} {events : List (Scheduled BufferAct)}

theorem Undisturbed.of_mem_schedule (undisturbed : Undisturbed deadline events)
    {e : Scheduled BufferAct} (due : e ∈ schedule events) :
    e.event ≠ .reset ∧ e.time ≠ deadline := by
  have there : e ∈ events := by
    unfold schedule at due
    exact List.mem_mergeSort.mp due
  exact ⟨undisturbed.kept e there, undisturbed.apart e there⟩

/-- Nothing happens at the deadline, so what is due by then happens before it. -/
theorem Undisturbed.dueBy_eq (undisturbed : Undisturbed deadline events) :
    dueBy deadline (schedule events) = (schedule events).filter (·.time < deadline) := by
  refine List.filter_congr fun e due => ?_
  have apart := (undisturbed.of_mem_schedule due).2
  exact decide_eq_decide.mpr ⟨fun early => lt_of_le_of_ne early apart, le_of_lt⟩

/-- The last occasion is the deadline with every act that is due, and any other one has only some of
these acts behind it. -/
theorem Undisturbed.occasions_spec (undisturbed : Undisturbed deadline events)
    (positive : 0 < deadline) :
    let acts := (dueBy deadline (schedule events)).map (·.event)
    (∃ early, occasions deadline events = early ++ [⟨deadline, acts⟩])
      ∧ ∀ o ∈ occasions deadline events, o.past <+: acts := by
  intro acts
  have woken : ∀ o ∈ wakings [] (dueBy deadline (schedule events)),
      o.time < deadline ∧ o.past <+: acts := by
    intro o comes
    obtain ⟨before, e, after, split, rfl⟩ := exists_of_mem_wakings comes
    have due : e ∈ dueBy deadline (schedule events) := by simp [split]
    rw [undisturbed.dueBy_eq] at due
    refine ⟨max_lt positive (of_decide_eq_true (List.mem_filter.mp due).2), ?_⟩
    exact ⟨after.map (·.event), by simp [acts, split]⟩
  have counts : occasions deadline events
      = (⟨0, []⟩ :: wakings [] (dueBy deadline (schedule events))) ++ [⟨deadline, acts⟩] := by
    refine throughDeadline_concat _ fun o early => ?_
    rcases List.mem_cons.mp early with rfl | comes
    · exact positive
    · exact (woken o comes).1
  refine ⟨⟨_, counts⟩, fun o member => ?_⟩
  rw [counts] at member
  rcases List.mem_append.mp member with early | last
  · rcases List.mem_cons.mp early with rfl | comes
    · exact List.nil_prefix
    · exact (woken o comes).2
  · rw [List.mem_singleton.mp last]

theorem Undisturbed.kept_due (undisturbed : Undisturbed deadline events) :
    ∀ act ∈ (dueBy deadline (schedule events)).map (·.event), act ≠ .reset := by
  intro act member
  obtain ⟨e, due, rfl⟩ := List.mem_map.mp member
  exact (undisturbed.of_mem_schedule (List.mem_filter.mp due).1).1

theorem Undisturbed.contentAfter_due (undisturbed : Undisturbed deadline events) (initial : Bytes) :
    contentAfter initial ((dueBy deadline (schedule events)).map (·.event))
      = arrivedBefore deadline initial events := by
  rw [contentAfter_of_kept initial undisturbed.kept_due, undisturbed.dueBy_eq, arrivedBefore,
    List.flatMap_map]

/-- On any occasion the buffer holds the beginning of all that arrives before the deadline, and on
the last one all of it. -/
theorem Undisturbed.content (undisturbed : Undisturbed deadline events) (positive : 0 < deadline)
    (initial : Bytes) {n : Nat} {o : Occasion} (place : (occasions deadline events)[n]? = some o) :
    contentAfter initial o.past <+: arrivedBefore deadline initial events
      ∧ (n + 1 = (occasions deadline events).length →
        contentAfter initial o.past = arrivedBefore deadline initial events) := by
  obtain ⟨⟨early, counts⟩, behind⟩ := undisturbed.occasions_spec positive
  rw [← undisturbed.contentAfter_due initial]
  constructor
  · obtain ⟨after, acts⟩ := behind o (List.mem_of_getElem? place)
    have kept : ∀ act ∈ o.past, act ≠ .reset := fun act member =>
      undisturbed.kept_due act (acts ▸ List.mem_append_left after member)
    rw [contentAfter_of_kept initial undisturbed.kept_due, contentAfter_of_kept initial kept,
      ← acts, List.flatMap_append, ← List.append_assoc]
    exact List.prefix_append ..
  · intro last
    rw [counts, List.length_append, List.length_singleton] at last
    rw [counts, List.getElem?_append_right (by omega), show n - early.length = 0 by omega] at place
    cases place
    rfl

/-! ### The verdict -/

theorem exists_place {given : Argument}
    (looks : Operator.read given = .ok .contain ∨ Operator.read given = .ok .startWith) :
    ∃ place : Place, Operator.read given = .ok place.operator := by
  rcases looks with anywhere | front
  · exact ⟨.anywhere, anywhere⟩
  · exact ⟨.front, front⟩

namespace Wait

variable {wait : Wait} {place : Place} {given : Argument} {e : String}

theorem finding_of_place (predicate : wait.predicate = .ofRule (.operator given (.text e)))
    (reads : Operator.read given = .ok place.operator) (call : Nat) (data : Data) :
    (wait.finding call data = .ok none ∧ place.Shows e data)
      ∨ (∃ m, wait.finding call data = .ok (some m)) ∧ ¬ place.Shows e data := by
  have compared : wait.finding call data
      = (Verdict.ofComparison (place.operator.compare data (.text e))).judge data := by
    rw [finding, predicate, Predicate.ofRule, Rule.call, AcceptanceBench.compare, reads]
    rfl
  rw [compared]
  rcases place.compare_operator e data with ⟨holds, shows⟩ | ⟨⟨m, fails⟩, hidden⟩
  · rw [holds]
    exact Or.inl ⟨rfl, shows⟩
  · rw [fails]
    exact Or.inr ⟨⟨m, rfl⟩, hidden⟩

/-- An undisturbed wait for a text, by a clock that can sleep for as long, returns data if, and only
if, all that arrives before the deadline shows the text. -/
theorem returns_iff_shows [Clock] {events : List (Scheduled BufferAct)} {s : BufferBench}
    (predicate : wait.predicate = .ofRule (.operator given (.text e)))
    (reads : Operator.read given = .ok place.operator) (fits : wait.timeout.isTooLarge = false)
    (allowed : Clock.refuses wait.deadline = false) (positive : 0 < wait.deadline)
    (undisturbed : Undisturbed wait.deadline events)
    (readable : '\n' ∉ e.toList
      ∨ (Data.received (arrivedBefore wait.deadline s.buffer.data events)).isText = true) :
    (∃ data, (wait.run BufferBench.surroundings events s).result = .ok data)
      ↔ place.Shows e (.received (arrivedBefore wait.deadline s.buffer.data events)) := by
  obtain ⟨n, o, ends⟩ := wait.exists_endsAt fits (wait.not_refused allowed s.buffer.snapshot) events
  obtain ⟨⟨later, all⟩, last⟩ := undisturbed.content positive s.buffer.data ends.place
  have result := ends.result
  rcases finding_of_place predicate reads n (o.data s.buffer.data) with
    ⟨found, shows⟩ | ⟨⟨m, found⟩, hidden⟩
  · -- The text was found at some time, and all that arrives still shows it.
    rw [found] at result
    refine iff_of_true ⟨_, result⟩ ?_
    rw [← all] at readable ⊢
    exact Place.Shows.append shows later readable
  · -- Every call failed, the last one included, which was made on all that arrives.
    rw [found] at result
    obtain ⟨final, -, failed⟩ := result
    refine iff_of_false ?_ ?_
    · rw [failed]
      nofun
    · rwa [Occasion.data, last final] at hidden

end Wait

namespace BufferBench

theorem holds_iff_shows {place : Place} {given : Argument} {e : String} {data : Data}
    (reads : Operator.read given = .ok place.operator) :
    compare data (.text e) given = .ok .holds ↔ place.Shows e data := by
  rw [compare, reads, ← Place.compare_operator_iff]
  rfl

section Clocked

variable [Clock]

/-- A wait on a buffer whose predicate can be made comes to what the wait itself comes to. -/
theorem result_waitFor {given : Argument} {expected : Data} {operator : Operator}
    (reads : Operator.read given = .ok operator) (timeout : Numeral)
    (events : List (Scheduled BufferAct)) (s : BufferBench) :
    (s.waitFor (.operator given expected) (some timeout) events).result
      = replyWith .data ((Wait.mk s.buffer.name timeout (.ofRule (.operator given expected))).run
        surroundings events s).result := by
  have made : Predicate.make (.operator given expected)
      = .ok (.ofRule (.operator given expected)) := by
    rw [Predicate.make, Rule.check, reads]
    rfl
  unfold waitFor
  rw [made]

theorem succeeds_waitFor_iff {given : Argument} {expected : Data} {operator : Operator}
    (reads : Operator.read given = .ok operator) (timeout : Numeral)
    (events : List (Scheduled BufferAct)) (s : BufferBench) :
    (s.waitFor (.operator given expected) (some timeout) events).Succeeds
      ↔ ∃ data, ((Wait.mk s.buffer.name timeout (.ofRule (.operator given expected))).run
        surroundings events s).result = .ok data := by
  rw [StepAnswer.Succeeds, result_waitFor reads]
  rcases ((Wait.mk s.buffer.name timeout (.ofRule (.operator given expected))).run surroundings
    events s).result with e | data
  · simp [replyWith]
  · simp [replyWith]

/-- By a clock that cannot sleep for the time limit, the wait is over with its first call. -/
theorem waitFor_of_refuses {place : Place} {given : Argument} (e : String) {timeout : Numeral}
    (reads : Operator.read given = .ok place.operator) (fits : timeout.isTooLarge = false)
    (long : Clock.refuses timeout.value = true) (positive : 0 < timeout.value)
    (events : List (Scheduled BufferAct)) (s : BufferBench) :
    let waited := s.waitFor (.operator given (.text e)) (some timeout) events
    (compare s.buffer.snapshot (.text e) given = .ok .holds →
        waited.result = .ok (.data s.buffer.snapshot))
      ∧ (compare s.buffer.snapshot (.text e) given ≠ .ok .holds →
        waited.result = .error .sleepTooLong) := by
  intro waited
  rw [ne_eq, holds_iff_shows reads]
  let wait : Wait := ⟨s.buffer.name, timeout, .ofRule (.operator given (.text e))⟩
  have result : waited.result = replyWith .data (wait.run surroundings events s).result :=
    result_waitFor reads timeout events s
  have predicate : wait.predicate = .ofRule (.operator given (.text e)) := rfl
  rcases Wait.finding_of_place predicate reads 0 s.buffer.snapshot with
    ⟨found, shows⟩ | ⟨failed, hidden⟩
  · refine ⟨fun _ => ?_, fun hidden => absurd shows hidden⟩
    rw [result, Wait.run_of_found fits rfl found]
    rfl
  · refine ⟨fun shows => absurd shows hidden, fun _ => ?_⟩
    have asked : wait.isRefused = true := Wait.isRefused_iff.mpr ⟨positive, long⟩
    obtain ⟨m, -, run⟩ := wait.run_of_refused surroundings s fits rfl ⟨asked, failed⟩ events
    rw [result, run]
    rfl

/-- A wait that contains or starts with a text succeeds exactly if the text is found in all bytes
that the buffer has been given before the deadline, so how these are cut into chunks and when they
arrive does not matter. If the text has several lines, all bytes together have to be a text. A time
limit that no floating-point number can hold is refused, and one that the clock cannot sleep for as
well, unless what is there at the start already shows the text. -/
theorem waitFor_verdict {given : Argument} {e : String} {timeout : Numeral}
    {events : List (Scheduled BufferAct)} {s : BufferBench}
    (looks : Operator.read given = .ok .contain ∨ Operator.read given = .ok .startWith)
    (positive : 0 < timeout.value) (undisturbed : Undisturbed timeout.value events)
    (readable : '\n' ∉ e.toList
      ∨ (Data.received (arrivedBefore timeout.value s.buffer.data events)).isText = true) :
    let all := arrivedBefore timeout.value s.buffer.data events
    let waited := s.waitFor (.operator given (.text e)) (some timeout) events
    if timeout.isTooLarge then waited.result = .error .numberTooLarge
    else if Clock.refuses timeout.value then
      (compare s.buffer.snapshot (.text e) given = .ok .holds →
        waited.result = .ok (.data s.buffer.snapshot))
      ∧ (compare s.buffer.snapshot (.text e) given ≠ .ok .holds →
        waited.result = .error .sleepTooLong)
    else (waited.Succeeds ↔ compare (.received all) (.text e) given = .ok .holds)
      ∧ ∀ (s' : BufferBench) (events' : List (Scheduled BufferAct)),
        Undisturbed timeout.value events' →
        arrivedBefore timeout.value s'.buffer.data events' = all →
        ((s'.waitFor (.operator given (.text e)) (some timeout) events').Succeeds
          ↔ waited.Succeeds) := by
  obtain ⟨place, reads⟩ := exists_place looks
  intro all waited
  cases large : timeout.isTooLarge with
  | true =>
    rw [if_pos rfl]
    refine (result_waitFor reads timeout events s).trans ?_
    exact congrArg
      (fun w : Waited BufferBench (Answer BufferBench) => replyWith Reply.data w.result)
      (if_pos large)
  | false =>
    rw [if_neg Bool.false_ne_true]
    cases long : Clock.refuses timeout.value with
    | true =>
      rw [if_pos rfl]
      exact waitFor_of_refuses e reads large long positive events s
    | false =>
    rw [if_neg Bool.false_ne_true]
    have verdict (s' : BufferBench) {events' : List (Scheduled BufferAct)}
        (undisturbed' : Undisturbed timeout.value events')
        (same : arrivedBefore timeout.value s'.buffer.data events' = all) :
        (s'.waitFor (.operator given (.text e)) (some timeout) events').Succeeds
          ↔ place.Shows e (.received all) := by
      rw [succeeds_waitFor_iff reads, ← same]
      exact Wait.returns_iff_shows rfl reads large long positive undisturbed' (same ▸ readable)
    have first := verdict s undisturbed rfl
    refine ⟨first.trans (holds_iff_shows reads).symm, fun s' events' undisturbed' same => ?_⟩
    exact (verdict s' undisturbed' same).trans first.symm

end Clocked

/-- The euro sign arrives in two parts, and after the text a byte that is part of no character. -/
def dribble : List (Scheduled BufferAct) :=
  [⟨1 / 8, .append (.bytes [0xE2, 0x82])⟩, ⟨1 / 4, .notify⟩, ⟨3 / 8, .append (.bytes [0xAC, 79])⟩,
    ⟨1 / 2, .append (.text "K")⟩, ⟨3 / 4, .append (.bytes [0xFF])⟩]

/-- The same bytes all at once. -/
def burst : List (Scheduled BufferAct) :=
  [⟨7 / 8, .append (.bytes [0xE2, 0x82, 0xAC, 79, 75, 0xFF])⟩]

/-- The text is found though the bytes are no text in the end, and in the burst as well. -/
theorem verdict_dribble :
    letI : Clock := .threads
    let s : BufferBench := ⟨.empty "Serial", []⟩
    let wait (events : List (Scheduled BufferAct)) :=
      s.waitFor (.operator (.text "contain") (.text "€OK")) (some 1) events
    Undisturbed 1 dribble ∧ Undisturbed 1 burst
      ∧ arrivedBefore 1 [] dribble = arrivedBefore 1 [] burst
      ∧ (wait dribble).Succeeds ∧ (wait burst).Succeeds := by
  let _ : Clock := .threads
  intro s wait
  have slow : Undisturbed 1 dribble := ⟨by simp [dribble], by decide +kernel⟩
  have fast : Undisturbed 1 burst := ⟨by simp [burst], by decide +kernel⟩
  have sorted : schedule dribble = dribble := List.mergeSort_of_pairwise (by decide +kernel)
  have bytes : arrivedBefore 1 [] dribble = [0xE2, 0x82, 0xAC, 79, 75, 0xFF] := by
    rw [arrivedBefore, sorted]
    decide +kernel
  have same : arrivedBefore 1 [] dribble = arrivedBefore 1 [] burst := by
    rw [bytes, arrivedBefore, show schedule burst = burst from List.mergeSort_singleton _]
    decide +kernel
  have found : compare (.received (arrivedBefore 1 [] dribble)) (.text "€OK") (.text "contain")
      = .ok .holds := by
    rw [bytes]
    decide +kernel
  have second : (1 : Numeral).value = 1 := by decide +kernel
  have verdict := @waitFor_verdict .threads (.text "contain") "€OK" 1 dribble s (Or.inl rfl)
    (by decide +kernel) (second ▸ slow) (Or.inl (by decide +kernel))
  dsimp only at verdict
  rw [second, if_neg (by decide +kernel), if_neg (by decide +kernel)] at verdict
  obtain ⟨shown, alike⟩ := verdict
  have succeeds := shown.mpr found
  exact ⟨slow, fast, same, succeeds, (alike s burst fast same.symm).mpr succeeds⟩

/-- So not every time limit leads to a verdict: by the clock of threads, neither a wait of
`10 ^ 400` seconds for a text that is there succeeds, nor one of `10 ^ 10` seconds for a text that
comes. -/
theorem not_verdict_of_tooLarge :
    letI : Clock := .threads
    let claimed (timeout : Numeral) : Prop :=
      ∀ (given : Argument) (e : String) (events : List (Scheduled BufferAct)) (s : BufferBench),
        (Operator.read given = .ok .contain ∨ Operator.read given = .ok .startWith) →
        0 < timeout.value → Undisturbed timeout.value events →
        ('\n' ∉ e.toList
          ∨ (Data.received (arrivedBefore timeout.value s.buffer.data events)).isText = true) →
        ((s.waitFor (.operator given (.text e)) (some timeout) events).Succeeds
          ↔ compare (.received (arrivedBefore timeout.value s.buffer.data events)) (.text e) given
            = .ok .holds)
    ¬ claimed (.whole (.number (Nat.pow 10 400 : Nat)))
      ∧ ¬ claimed (.whole (.number (Nat.pow 10 10 : Nat))) := by
  let _ : Clock := .threads
  intro claimed
  have found : compare (.received [79, 75]) (.text "OK") (.text "contain") = .ok .holds := by
    decide +kernel
  constructor
  · intro claim
    have verdict := claim (.text "contain") "OK" [] ⟨(Buffer.empty "Serial").append [79, 75], []⟩
      (Or.inl rfl) (by decide +kernel) ⟨nofun, nofun⟩ (Or.inl (by decide +kernel))
    have nothing (deadline : Rat) (initial : Bytes) :
        arrivedBefore deadline initial [] = initial := by
      simp [arrivedBefore, schedule]
    rw [nothing] at verdict
    obtain ⟨data, returned⟩ := (succeeds_waitFor_iff rfl ..).mp (verdict.mpr found)
    have large : (Numeral.whole (.number (Nat.pow 10 400 : Nat))).isTooLarge = true := by
      decide +kernel
    rw [Wait.run, if_pos large] at returned
    cases returned
  · intro claim
    let comes : List (Scheduled BufferAct) := [⟨1, .append (.text "OK")⟩]
    have verdict := claim (.text "contain") "OK" comes ⟨.empty "Serial", []⟩
      (Or.inl rfl) (by decide +kernel) ⟨by simp [comes], by decide +kernel⟩
      (Or.inl (by decide +kernel))
    have arrived : arrivedBefore (Numeral.whole (.number (Nat.pow 10 10 : Nat))).value [] comes
        = [79, 75] := by
      rw [arrivedBefore, show schedule comes = comes from List.mergeSort_singleton _]
      decide +kernel
    rw [show (BufferBench.mk (.empty "Serial") []).buffer.data = [] from rfl, arrived] at verdict
    obtain ⟨reply, returned⟩ := verdict.mpr found
    have reads : Operator.read (.text "contain") = .ok Place.anywhere.operator := rfl
    have fits : (Numeral.whole (.number (Nat.pow 10 10 : Nat))).isTooLarge = false := by
      decide +kernel
    have refused := (waitFor_of_refuses "OK" reads fits (by decide +kernel) (by decide +kernel)
      comes ⟨.empty "Serial", []⟩).2 (by decide +kernel)
    rw [refused] at returned
    cases returned

end BufferBench

end AcceptanceBench
