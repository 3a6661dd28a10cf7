import AcceptanceBench.Proofs.TimeoutReport

/-!
Notifications that bring nothing. A wait that is woken without new bytes calls its predicate on the
data of the call before; if the answer depends on the data alone, that call fails as the one before
it did and gives the same detail, so neither the end of the wait nor its time changes.
-/

namespace AcceptanceBench

/-- The answer depends on the data alone, not on the calls before. -/
def Predicate.Steady (predicate : Predicate) : Prop :=
  ∀ call call' data, predicate call data = predicate call' data

/-- The second schedule is the first one with notifications put in at times other than the deadline.
-/
inductive Roused (deadline : Rat) : (events roused : List (Scheduled BufferAct)) → Prop
  | done : Roused deadline [] []
  | event {events roused : List (Scheduled BufferAct)} (e : Scheduled BufferAct)
    (later : Roused deadline events roused) : Roused deadline (e :: events) (e :: roused)
  | notify {events roused : List (Scheduled BufferAct)} {time : Rat} (apart : time ≠ deadline)
    (later : Roused deadline events roused) : Roused deadline events (⟨time, .notify⟩ :: roused)

/-! ### Notifications in the order of times -/

/-- A schedule parts at any time, and an event that is put in front of the others comes between the
earlier ones and those of its own time. -/
theorem schedule_cons {ε : Type} (e : Scheduled ε) (events : List (Scheduled ε)) :
    let before := (schedule events).filter (·.time < e.time)
    let after := (schedule events).filter (e.time ≤ ·.time)
    schedule events = before ++ after ∧ schedule (e :: events) = before ++ e :: after := by
  intro before after
  obtain ⟨front, back, placed, parted, early⟩ :=
    List.mergeSort_cons Scheduled.time_le_trans Scheduled.time_le_total e events
  have placed : schedule (e :: events) = front ++ e :: back := placed
  have parted : schedule events = front ++ back := parted
  have sorted := schedule_sorted (e :: events)
  rw [placed, List.pairwise_append, List.pairwise_cons] at sorted
  have early : ∀ d ∈ front, d.time < e.time := by simpa using early
  have late : ∀ d ∈ back, e.time ≤ d.time := sorted.2.1.1
  have front_eq : before = front := by
    rw [show before = (schedule events).filter (·.time < e.time) from rfl, parted,
      List.filter_append, List.filter_eq_self.mpr (by simpa using early),
      List.filter_eq_nil_iff.mpr (by simpa using late), List.append_nil]
  have back_eq : after = back := by
    rw [show after = (schedule events).filter (e.time ≤ ·.time) from rfl, parted,
      List.filter_append, List.filter_eq_nil_iff.mpr (by simpa using early),
      List.filter_eq_self.mpr (by simpa using late), List.nil_append]
  rw [front_eq, back_eq]
  exact ⟨parted, placed⟩

namespace Roused

variable {deadline : Rat} {events roused others others' : List (Scheduled BufferAct)}

theorem filter (among : Roused deadline events roused) (p : Scheduled BufferAct → Bool) :
    Roused deadline (events.filter p) (roused.filter p) := by
  induction among with
  | done => exact .done
  | event e later ih =>
    rw [List.filter_cons, List.filter_cons]
    split
    · exact .event e ih
    · exact ih
  | notify apart later ih =>
    rw [List.filter_cons]
    split
    · exact .notify apart ih
    · exact ih

theorem append (among : Roused deadline events roused) (behind : Roused deadline others others') :
    Roused deadline (events ++ others) (roused ++ others') := by
  induction among with
  | done => exact behind
  | event e later ih => exact .event e ih
  | notify apart later ih => exact .notify apart ih

/-- Sorting by time leaves the events as they were among the notifications. -/
theorem sorted (among : Roused deadline events roused) :
    Roused deadline (schedule events) (schedule roused) := by
  induction among with
  | done =>
    rw [schedule, List.mergeSort_nil]
    exact .done
  | event e later ih =>
    rw [(schedule_cons e _).2, (schedule_cons e _).2]
    exact (ih.filter _).append (.event e (ih.filter _))
  | @notify events roused time apart later ih =>
    rw [(schedule_cons ⟨time, .notify⟩ events).1, (schedule_cons ⟨time, .notify⟩ roused).2]
    exact (ih.filter _).append (.notify apart (ih.filter _))

end Roused

/-! ### Occasions that repeat the one before -/

/-- The occasions that are left of a wait after some acts, with the events that are still due. -/
def occasionsAfter (deadline : Rat) (past : List BufferAct) (due : List (Scheduled BufferAct)) :
    List Occasion :=
  wakings past due ++ [⟨deadline, past ++ due.map (·.event)⟩]

theorem occasionsAfter_cons (deadline : Rat) (past : List BufferAct) (e : Scheduled BufferAct)
    (due : List (Scheduled BufferAct)) :
    occasionsAfter deadline past (e :: due) =
      if e.event.notifies then
        ⟨max 0 e.time, past ++ [e.event]⟩ :: occasionsAfter deadline (past ++ [e.event]) due
      else occasionsAfter deadline (past ++ [e.event]) due := by
  rw [occasionsAfter, wakings]
  split
  · simp [occasionsAfter]
  · simp [occasionsAfter]

/-- The second occasions are the first ones with others put in before the deadline, each of which
shows what was shown just before; `shown` is what was shown before all of them. -/
inductive Repeats (deadline : Rat) (initial : Bytes) :
    (shown : Data) → (occasions others : List Occasion) → Prop
  | done {shown : Data} : Repeats deadline initial shown [] []
  | next {shown : Data} {o o' : Occasion} {rest rest' : List Occasion} (time : o'.time = o.time)
    (data : o'.data initial = o.data initial)
    (later : Repeats deadline initial (o.data initial) rest rest') :
    Repeats deadline initial shown (o :: rest) (o' :: rest')
  | again {shown : Data} {o : Occasion} {rest rest' : List Occasion} (early : o.time < deadline)
    (data : o.data initial = shown) (later : Repeats deadline initial shown rest rest') :
    Repeats deadline initial shown rest (o :: rest')

theorem contentAfter_of_quiet (initial : Bytes) {past : List BufferAct} {act : BufferAct}
    (quiet : act.notifies = false) (kept : act ≠ .reset) :
    contentAfter initial (past ++ [act]) = contentAfter initial past := by
  rw [contentAfter_append]
  cases act with
  | append data => cases quiet
  | notify => cases quiet
  | reset => exact absurd rfl kept
  | snapshot | refused => rfl

variable {deadline : Rat} {initial : Bytes}

/-- Notifications that are put into a schedule repeat what was shown before them. -/
theorem Roused.repeats {due due' : List (Scheduled BufferAct)} (among : Roused deadline due due')
    (positive : 0 < deadline) (kept : ∀ e ∈ due, e.event ≠ .reset)
    (inTime : ∀ e ∈ due', e.time ≤ deadline) {past past' : List BufferAct}
    (level : contentAfter initial past' = contentAfter initial past) :
    Repeats deadline initial (.received (contentAfter initial past))
      (occasionsAfter deadline past due) (occasionsAfter deadline past' due') := by
  induction among generalizing past past' with
  | done =>
    have data : Occasion.data initial ⟨deadline, past' ++ []⟩
        = Occasion.data initial ⟨deadline, past ++ []⟩ := by
      rw [List.append_nil, List.append_nil]
      exact congrArg Data.received level
    exact .next rfl data .done
  | event e later ih =>
    have after : contentAfter initial (past' ++ [e.event])
        = contentAfter initial (past ++ [e.event]) := by
      rw [contentAfter_append, contentAfter_append, level]
    have onward := ih (fun d there => kept d (List.mem_cons_of_mem e there))
      (fun d there => inTime d (List.mem_cons_of_mem e there)) after
    rw [occasionsAfter_cons, occasionsAfter_cons]
    split
    · exact .next rfl (congrArg Data.received after) onward
    · next quiet =>
      rw [Bool.not_eq_true] at quiet
      rwa [contentAfter_of_quiet initial quiet (kept e List.mem_cons_self)] at onward
  | @notify events roused time apart later ih =>
    have after : contentAfter initial (past' ++ [.notify]) = contentAfter initial past :=
      (contentAfter_append ..).trans level
    have onward := ih kept (fun d there => inTime d (List.mem_cons_of_mem _ there)) after
    have early : time < deadline := lt_of_le_of_ne (inTime _ List.mem_cons_self) apart
    rw [occasionsAfter_cons, if_pos (by rfl)]
    exact .again (max_lt positive early) (congrArg Data.received after) onward

theorem Repeats.throughDeadline {shown : Data} {rest rest' : List Occasion}
    (repeats : Repeats deadline initial shown rest rest') :
    Repeats deadline initial shown (throughDeadline deadline rest)
      (AcceptanceBench.throughDeadline deadline rest') := by
  induction repeats with
  | done => exact .done
  | next time data later ih =>
    unfold AcceptanceBench.throughDeadline
    rw [time]
    split
    · exact .next time data .done
    · exact .next time data ih
  | again early data later ih =>
    rw [AcceptanceBench.throughDeadline, if_neg (not_le.mpr early)]
    exact .again early data ih

/-- With notifications put into its schedule a wait begins on the same occasion and goes on to
occasions that repeat others. -/
theorem Roused.occasions {events roused : List (Scheduled BufferAct)}
    (among : Roused deadline events roused) (kept : ∀ e ∈ events, e.event ≠ .reset)
    (initial : Bytes) :
    ∃ rest rest', occasions deadline events = ⟨0, []⟩ :: rest
      ∧ AcceptanceBench.occasions deadline roused = ⟨0, []⟩ :: rest'
      ∧ Repeats deadline initial (.received initial) rest rest' := by
  by_cases late : deadline ≤ 0
  · exact ⟨[], [], occasionsFrom_of_le late _, occasionsFrom_of_le late _, .done⟩
  · have due := among.sorted.filter (·.time ≤ deadline)
    have inTime : ∀ e ∈ dueBy deadline (schedule roused), e.time ≤ deadline :=
      fun e there => of_decide_eq_true (List.mem_filter.mp there).2
    have keptDue : ∀ e ∈ dueBy deadline (schedule events), e.event ≠ .reset :=
      fun e there => kept e (List.mem_mergeSort.mp (List.mem_filter.mp there).1)
    have level : contentAfter initial [] = contentAfter initial [] := rfl
    have repeats := due.repeats (not_le.mp late) keptDue inTime level
    exact ⟨_, _, if_neg late, if_neg late, repeats.throughDeadline⟩

/-! ### What a wait comes to -/

namespace Wait

variable {wait : Wait}

/-- When and how a wait ends that has called its predicate on `seen`, with these occasions left. -/
def conclude (wait : Wait) (initial : Bytes) (seen : List Data) :
    List Occasion → Rat × Except Error Data
  | [] =>
    let elapsed := max 0 wait.deadline
    (elapsed, .error (wait.timeoutError elapsed seen (seen.getLast?.getD (.text ""))))
  | o :: rest =>
    match wait.finding seen.length (o.data initial) with
    | .error e => (o.time, .error e)
    | .ok none => (o.time, .ok (o.data initial))
    | .ok (some _) => wait.conclude initial (seen ++ [o.data initial]) rest

/-- Calls that fail lead on to the occasions after them. -/
theorem conclude_drop {all : List Occasion} {n : Nat} (inside : n ≤ all.length)
    (failed : ∀ i p, i < n → all[i]? = some p →
      ∃ m, wait.finding i (p.data initial) = .ok (some m)) :
    wait.conclude initial ((all.take n).map (·.data initial)) (all.drop n)
      = wait.conclude initial [] all := by
  induction n with
  | zero => rfl
  | succ n ih =>
    rw [← ih (Nat.le_of_succ_le inside) fun i p before => failed i p (Nat.lt_succ_of_lt before)]
    obtain ⟨m, found⟩ := failed n all[n] (Nat.lt_succ_self n) (List.getElem?_eq_getElem inside)
    have calls : ((all.take n).map (·.data initial)).length = n := by
      rw [List.length_map, List.length_take]
      omega
    rw [List.drop_eq_getElem_cons inside, conclude, calls, found, List.take_add_one,
      List.getElem?_eq_getElem inside, List.map_append]
    rfl

/-- The end of a wait is what its occasions say. -/
theorem EndsAt.conclude {ρ : Type} {all : List Occasion} {n : Nat} {o : Occasion}
    {ended : Waited BufferBench ρ} (ends : EndsAt wait initial all n o ended) :
    wait.conclude initial [] all = (ended.watch.now, ended.result) := by
  obtain ⟨inside, rfl⟩ := List.getElem?_eq_some_iff.mp ends.place
  have calls : ((all.take n).map (·.data initial)).length = n := by
    rw [List.length_map, List.length_take]
    omega
  have result := ends.result
  rw [← conclude_drop inside.le ends.failed, List.drop_eq_getElem_cons inside, Wait.conclude, calls]
  rcases found : wait.finding n (all[n].data initial) with e | _ | m
  · rw [found] at result
    rw [ends.clock, result]
  · rw [found] at result
    rw [ends.clock, result]
  · rw [found] at result
    obtain ⟨last, now, result⟩ := result
    have seen : (all.take n).map (·.data initial) ++ [all[n].data initial] = ended.watch.seen := by
      rw [ends.called, List.take_add_one, List.getElem?_eq_getElem inside, List.map_append]
      rfl
    dsimp only
    rw [last, List.drop_length, Wait.conclude, ← now, seen, result, ← seen, List.getLast?_concat]
    rfl

/-- Two lists of calls that end with the same data and give the same detail at last. -/
structure Level (wait : Wait) (shown : Data) (seen seen' : List Data) : Prop where
  last : seen.getLast? = some shown
  last' : seen'.getLast? = some shown
  latest : (wait.details seen').getLast? = (wait.details seen).getLast?

variable (steady : wait.predicate.Steady) {shown : Data} {seen seen' : List Data}

include steady

theorem finding_of_steady (call call' : Nat) (data : Data) :
    wait.finding call data = wait.finding call' data := by
  rw [finding, finding, steady call call']

theorem detail?_of_steady (call call' : Nat) (data : Data) :
    wait.detail? call data = wait.detail? call' data := by
  rw [detail?, detail?, finding_of_steady steady call call']

/-- The latest detail after one more call. -/
theorem getLast?_details_append (data : Data) :
    (wait.details (seen ++ [data])).getLast?
      = (wait.detail? 0 data).or (wait.details seen).getLast? := by
  rw [details_append, detail?_of_steady steady seen.length 0, List.getLast?_append]
  cases wait.detail? 0 data with
  | none => rfl
  | some m => rfl

theorem level_next (latest : (wait.details seen').getLast? = (wait.details seen).getLast?)
    (data : Data) : wait.Level data (seen ++ [data]) (seen' ++ [data]) := by
  refine ⟨List.getLast?_concat, List.getLast?_concat, ?_⟩
  rw [getLast?_details_append steady, getLast?_details_append steady, latest]

/-- Calling the predicate again on the data of the last call tells nothing new. -/
theorem level_again (level : wait.Level shown seen seen') :
    wait.Level shown seen (seen' ++ [shown]) := by
  obtain ⟨before, rfl⟩ := List.getLast?_eq_some_iff.mp level.last'
  refine ⟨level.last, List.getLast?_concat, ?_⟩
  rw [← level.latest, getLast?_details_append steady, getLast?_details_append steady,
    ← Option.or_assoc, Option.or_self]

/-- Occasions that repeat others lead to the same end. -/
theorem conclude_of_repeats {rest rest' : List Occasion}
    (repeats : Repeats wait.deadline initial shown rest rest')
    (fails : ∃ m, wait.finding 0 shown = .ok (some m)) (level : wait.Level shown seen seen') :
    wait.conclude initial seen' rest' = wait.conclude initial seen rest := by
  induction repeats generalizing seen seen' with
  | done =>
    unfold conclude timeoutError
    rw [level.latest, level.last, level.last']
  | @next shown o o' rest rest' time data later ih =>
    rw [conclude, conclude, time, data, finding_of_steady steady seen'.length 0,
      finding_of_steady steady seen.length 0]
    rcases found : wait.finding 0 (o.data initial) with e | _ | m
    · rfl
    · rfl
    · exact ih ⟨m, found⟩ (level_next steady level.latest _)
  | @again shown o rest rest' early data later ih =>
    obtain ⟨m, found⟩ := fails
    rw [conclude, data, finding_of_steady steady seen'.length 0, found]
    exact ih ⟨m, found⟩ (level_again steady level)

theorem conclude_of_roused {events roused : List (Scheduled BufferAct)}
    (among : Roused wait.deadline events roused) (kept : ∀ e ∈ events, e.event ≠ .reset)
    (initial : Bytes) :
    wait.conclude initial [] (occasions wait.deadline roused)
      = wait.conclude initial [] (occasions wait.deadline events) := by
  obtain ⟨rest, rest', comes, comes', repeats⟩ := among.occasions kept initial
  rw [comes, comes', conclude, conclude]
  rcases found : wait.finding [].length (Occasion.data initial ⟨0, []⟩) with e | _ | m
  · rfl
  · rfl
  · exact conclude_of_repeats steady repeats ⟨m, found⟩ (level_next steady rfl _)

end Wait

namespace BufferBench

variable {predicate : Predicate} {timeout : Numeral} {events roused : List (Scheduled BufferAct)}

section Clocked

variable [Clock]

/-- A wait that can begin, and is not refused its first sleep, ends as its occasions say. -/
theorem waited_conclude (bounded : timeout.isTooLarge = false) {s : BufferBench}
    (allowed : ¬ (Wait.mk s.buffer.name timeout predicate).Refused s.buffer.snapshot)
    (events : List (Scheduled BufferAct)) :
    (Wait.mk s.buffer.name timeout predicate).conclude s.buffer.data []
        (occasions timeout.value events)
      = ((waited predicate timeout events s).watch.now,
          (waited predicate timeout events s).result) := by
  obtain ⟨n, o, ends⟩ :=
    (Wait.mk s.buffer.name timeout predicate).exists_endsAt bounded allowed events
  exact ends.conclude

/-- Notifications that bring nothing are harmless. Whatever the buffer holds and whatever the time
limit, a wait whose predicate looks at the data alone, and during which the buffer is not reset,
comes to the same result at the same time if it is also notified at any moments but the deadline. -/
theorem waited_of_roused (steady : predicate.Steady) (kept : ∀ e ∈ events, e.event ≠ .reset)
    (among : Roused timeout.value events roused) (s : BufferBench) :
    (waited predicate timeout roused s).result = (waited predicate timeout events s).result
      ∧ (waited predicate timeout roused s).watch.now
        = (waited predicate timeout events s).watch.now := by
  cases large : timeout.isTooLarge with
  | true =>
    have refused (events : List (Scheduled BufferAct)) :
        waited predicate timeout events s = ⟨.error .numberTooLarge, .start s, []⟩ := if_pos large
    rw [refused, refused]
    exact ⟨rfl, rfl⟩
  | false =>
    let wait : Wait := ⟨s.buffer.name, timeout, predicate⟩
    by_cases refused : wait.Refused s.buffer.snapshot
    · have atOnce (events : List (Scheduled BufferAct)) :
          (waited predicate timeout events s).result = .error .sleepTooLong
            ∧ (waited predicate timeout events s).watch.now = 0 := by
        have ends := wait.run_endsAt events s
        rw [show wait.timeout.isTooLarge = false from large, if_neg Bool.false_ne_true] at ends
        obtain ⟨result, now, -⟩ := ends.1 refused
        exact ⟨result, now⟩
      rw [(atOnce roused).1, (atOnce roused).2, (atOnce events).1, (atOnce events).2]
      exact ⟨rfl, rfl⟩
    · have same := @Wait.conclude_of_roused wait steady _ _ among kept s.buffer.data
      have ends := waited_conclude large refused events
      have ends' := waited_conclude large refused roused
      have level := Prod.mk.inj (ends'.symm.trans (same.trans ends))
      exact ⟨level.2, level.1⟩

end Clocked

/-- A comparison that gives a detail, but none once `REA` is shown. -/
def hasty : Predicate := fun _ data =>
  if data = .text "REA" then .answered false
  else (Rule.compare (.text "be") (.text "READY")).call data 0

/-- What arrives in two pieces. -/
def halves : List (Scheduled BufferAct) :=
  [⟨1 / 4, .append (.text "RE")⟩, ⟨3 / 4, .append (.text "A")⟩]

/-- The same with notifications before, between and after them, and after the deadline. -/
def restless : List (Scheduled BufferAct) :=
  [⟨1 / 2, .notify⟩, ⟨1 / 4, .append (.text "RE")⟩, ⟨7 / 8, .notify⟩, ⟨1 / 8, .notify⟩,
    ⟨3 / 4, .append (.text "A")⟩, ⟨2, .notify⟩]

/-- The detail that was given before the last piece is reported with or without notifications. -/
theorem waited_restless :
    letI : Clock := .threads
    let s : BufferBench := ⟨.empty "Serial", []⟩
    let e : Error := .lastMismatch "Serial" 1 ⟨"be", .text "READY", .text "RE", ""⟩
    Roused (1 : Numeral).value halves restless
      ∧ (waited hasty 1 halves s).result = .error e
      ∧ (waited hasty 1 restless s).result = .error e
      ∧ (waited hasty 1 restless s).watch.now = 1 := by
  let _ : Clock := .threads
  intro s e
  have second : (1 : Numeral).value = 1 := by decide +kernel
  have among : Roused (1 : Numeral).value halves restless := by
    rw [second]
    exact .notify (by decide +kernel) (.event _ (.notify (by decide +kernel)
      (.notify (by decide +kernel) (.event _ (.notify (by decide +kernel) .done)))))
  have kept : ∀ e ∈ halves, e.event ≠ .reset := by
    simp [halves]
  have steady : hasty.Steady := fun _ _ _ => rfl
  have bounded : (1 : Numeral).isTooLarge = false := by decide +kernel
  have allowed : Clock.refuses (1 : Numeral).value = false := by decide +kernel
  have ends := waited_conclude bounded
    (Wait.not_refused ⟨s.buffer.name, 1, hasty⟩ allowed s.buffer.snapshot) halves
  have concluded : (Wait.mk s.buffer.name 1 hasty).conclude s.buffer.data []
      (occasions (1 : Numeral).value halves) = (1, .error e) := by
    have sorted : schedule halves = halves := List.mergeSort_of_pairwise (by decide +kernel)
    rw [second, occasions, sorted]
    decide +kernel
  obtain ⟨now, result⟩ := Prod.mk.inj (ends.symm.trans concluded)
  obtain ⟨result', now'⟩ := waited_of_roused steady kept among s
  exact ⟨among, result, result'.trans result, now'.trans now⟩

end BufferBench

end AcceptanceBench
