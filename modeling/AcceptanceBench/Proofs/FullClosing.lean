import AcceptanceBench.Proofs.Closing

/-!
Closing every channel, act by act. Each channel in the order of opening has its subscription ended
and then its link closed, once, whatever faults the others raise; no channel and no subscription is
left, and the error that is raised counts and keeps the faults of just the channels that failed.
-/

namespace AcceptanceBench

/-- The fault that a channel's link raises when it is closed. -/
def Channel.raises (r : Rack) (c : Channel) : Option Fault :=
  (c.link.disconnect r).1

theorem Channel.raises_of_held {c : Channel} (held : c.link.IsHeld) (r : Rack) :
    c.raises r = (r.device c.link.endpoint).fault .close := by
  rw [raises, Link.disconnect_of_held held]

/-- What closing channels consists of. -/
inductive ClosingAct where
  | unsubscribe (c : Channel)
  | disconnect (c : Channel)
  | report (c : Channel) (f : Fault)
  deriving Repr, DecidableEq

/-- The acts that close a channel: its subscription is ended, its link is closed, and a fault that
the link raises then is reported. -/
def Channel.closingActs (r : Rack) (c : Channel) : List ClosingAct :=
  .unsubscribe c :: .disconnect c :: ((c.raises r).map (.report c)).toList

namespace Bench

/-- Carries out an act of closing. -/
def carryOut (b : Bench) : ClosingAct → Bench
  | .unsubscribe c => b.onScheduler (·.remove c.subscription.id)
  | .disconnect c => { b with toRack := (c.link.disconnect b.toRack).2 }
  | .report c f => b.note (.channelNotClosed c.name f)

/-- The bench after channels were closed one after another. -/
def closeInTurn (channels : List Channel) (b : Bench) : Bench :=
  (channels.flatMap (Channel.closingActs b.toRack)).foldl carryOut b

/-- Reporting a fault touches neither devices nor the scheduler. -/
theorem foldl_closingActs (b : Bench) (r : Rack) (c : Channel) :
    ((c.closingActs r).foldl carryOut b).devices = (c.link.disconnect b.toRack).2.devices
      ∧ ((c.closingActs r).foldl carryOut b).scheduler
        = b.scheduler.remove c.subscription.id := by
  unfold Channel.closingActs
  cases c.raises r with
  | none => exact ⟨rfl, rfl⟩
  | some f => exact ⟨rfl, rfl⟩

end Bench

namespace Registry

open Bench (carryOut closeInTurn)

variable {channels : List Channel} {r : Rack}

/-- Racks whose devices raise the same faults have channels closed by the same acts. -/
theorem closingActs_congr (held : ∀ c ∈ channels, c.link.IsHeld) {r' : Rack}
    (faults : ∀ endpoint, (r'.device endpoint).fault = (r.device endpoint).fault) :
    channels.flatMap (Channel.closingActs r') = channels.flatMap (Channel.closingActs r) := by
  refine List.flatMap_congr fun c there => ?_
  rw [Channel.closingActs, Channel.closingActs, Channel.raises_of_held (held c there),
    Channel.raises_of_held (held c there), faults]

/-- Closing several channels is closing the first of them and then the others. -/
theorem closeInTurn_cons {c : Channel} (held : ∀ d ∈ c :: channels, d.link.IsHeld) (b : Bench) :
    closeInTurn (c :: channels) b
      = closeInTurn channels ((c.closingActs b.toRack).foldl carryOut b) := by
  have faults (endpoint : String) :
      (((c.closingActs b.toRack).foldl carryOut b).device endpoint).fault
        = (b.device endpoint).fault := by
    rw [Rack.device_congr (b.foldl_closingActs b.toRack c).1]
    exact fault_disconnect (held c List.mem_cons_self) b.toRack endpoint
  unfold closeInTurn
  rw [List.flatMap_cons, List.foldl_append,
    closingActs_congr (fun d there => held d (List.mem_cons_of_mem c there)) faults]

/-- Closing channels closes the device of each once, leaves the faults of all devices as they are,
and ends the subscriptions of those channels alone. -/
theorem closeInTurn_spec (held : ∀ c ∈ channels, c.link.IsHeld) (b : Bench) :
    b.toRack.Counts Rack.never (usersOf · channels) (closeInTurn channels b).toRack
      ∧ (∀ endpoint, ((closeInTurn channels b).device endpoint).fault = (b.device endpoint).fault)
      ∧ (closeInTurn channels b).scheduler.subscriptions
        = b.scheduler.subscriptions.filter fun s => !channels.any (·.subscription.id == s.id) := by
  induction channels generalizing b with
  | nil =>
    refine ⟨(Rack.Alike.refl _).counts, fun _ => rfl, ?_⟩
    simp [closeInTurn]
  | cons c rest ih =>
    have own := held c List.mem_cons_self
    obtain ⟨devices, scheduler⟩ := b.foldl_closingActs b.toRack c
    obtain ⟨counts, faults, left⟩ := ih (fun d there => held d (List.mem_cons_of_mem c there))
      ((c.closingActs b.toRack).foldl carryOut b)
    rw [closeInTurn_cons held]
    refine ⟨?_, fun endpoint => ?_, ?_⟩
    · have first := (Link.counts_disconnect own b.toRack).trans (Rack.alike_of_same devices).counts
      refine (first.trans counts).congr (fun _ => rfl) fun endpoint => ?_
      rw [usersOf_cons, Nat.add_comm]
      rfl
    · rw [faults, Rack.device_congr devices]
      exact fault_disconnect own b.toRack endpoint
    · rw [left, scheduler, Scheduler.remove, List.filter_filter]
      refine List.filter_congr fun s _ => ?_
      simp [bne, Bool.and_comm, Bool.beq_comm (a := s.id)]

/-- Shutting channels down carries out the acts of closing each. -/
theorem shutDownAll_eq (held : ∀ c ∈ channels, c.link.IsHeld) (b : Bench) :
    (shutDownAll channels b).2 = closeInTurn channels b := by
  induction channels generalizing b with
  | nil => rfl
  | cons c rest ih =>
    rw [closeInTurn_cons held, shutDownAll]
    refine (ih (fun d there => held d (List.mem_cons_of_mem c there)) _).trans ?_
    have raised : (shutDown c b).1 = c.raises b.toRack := rfl
    rw [raised, Channel.closingActs]
    cases c.raises b.toRack with
    | none => rfl
    | some f => rfl

/-- Closing every channel fails if some link does, and leaves none open. -/
theorem closeAll_eq {g : Registry} (held : ∀ c ∈ g.opened, c.link.IsHeld) :
    g.closeAll = (if closeFailures g.opened g.bench.toRack = [] then .ok ()
        else .error (.closing g.opened.length (closeFailures g.opened g.bench.toRack)),
      { g with opened := [], bench := closeInTurn g.opened g.bench }) := by
  refine Prod.ext (closeAll_report held).1 ?_
  unfold closeAll
  dsimp only
  rw [shutDownAll_eq held]
  split
  · rfl
  · rfl

/-! ### The report -/

/-- A fault is reported under a name if an open channel of that name raises it. -/
theorem mem_closeFailures {name : String} {f : Fault} :
    (name, f) ∈ closeFailures channels r
      ↔ ∃ c ∈ channels, c.name = name ∧ c.raises r = some f := by
  unfold closeFailures Channel.raises
  simp only [List.mem_filterMap, Option.map_eq_some_iff, Prod.mk.injEq]
  constructor
  · rintro ⟨c, there, f', raised, rfl, rfl⟩
    exact ⟨c, there, rfl, raised⟩
  · rintro ⟨c, there, rfl, raised⟩
    exact ⟨c, there, f, raised, rfl, rfl⟩

theorem closeFailures_eq_nil_iff :
    closeFailures channels r = [] ↔ ∀ c ∈ channels, ∀ f, c.raises r ≠ some f := by
  simp [closeFailures, Channel.raises, Option.eq_none_iff_forall_ne_some]

/-- The report keeps the order of the channels. -/
theorem names_closeFailures (channels : List Channel) (r : Rack) :
    ((closeFailures channels r).map (·.1)).Sublist (channels.map (·.name)) := by
  unfold closeFailures
  induction channels with
  | nil => exact .slnil
  | cons c rest ih =>
    rw [List.filterMap_cons]
    cases (c.link.disconnect r).1 with
    | none => exact ih.cons _
    | some f => exact ih.cons_cons _

/-- An error that tells the faults of just the channels that failed to close, in the order of
closing. Its message counts them and names the first. -/
structure Tells (e : Error) (channels : List Channel) (r : Rack) : Prop where
  error : e = .closing channels.length (closeFailures channels r)
  name : e.name = "ChannelCloseError"
  failures : ∀ name f, (name, f) ∈ closeFailures channels r
    ↔ ∃ c ∈ channels, c.name = name ∧ c.raises r = some f
  order : ((closeFailures channels r).map (·.1)).Sublist (channels.map (·.name))
  distinct : ((closeFailures channels r).map (·.1)).Nodup
  message : ∃ name f rest, closeFailures channels r = (name, f) :: rest
    ∧ e.message = "Failed to close " ++ toString (rest.length + 1) ++ " of "
      ++ toString channels.length ++ " channel(s); first failure on " ++ name ++ ": " ++ f.text

theorem tells_closing (distinct : (channels.map (·.name)).Nodup)
    (some : closeFailures channels r ≠ []) :
    Tells (.closing channels.length (closeFailures channels r)) channels r := by
  have order := names_closeFailures channels r
  refine ⟨rfl, rfl, fun _ _ => mem_closeFailures, order, distinct.sublist order, ?_⟩
  obtain ⟨⟨name, f⟩, rest, failures⟩ := List.exists_cons_of_ne_nil some
  refine ⟨name, f, rest, failures, ?_⟩
  rw [failures]
  rfl

/-! ### What closing every channel comes to -/

/-- Every channel of a registry was closed. Each had its subscription ended and its link closed, in
the order of opening, and nothing else was done but reporting. At the turn of a channel just those
before it were closed, and it raised the fault that it would have raised at first. No channel and no
subscription is left; the closing has failed if and only if some channel raised a fault; and closing
every channel again does nothing. -/
structure ClosesEvery (g : Registry) (result : Except Error Unit) (closed : Registry) : Prop where
  acts : closed = { g with
    opened := []
    bench := (g.opened.flatMap (Channel.closingActs g.bench.toRack)).foldl carryOut g.bench }
  inOrder : ∀ before c after, g.opened = before ++ c :: after →
    let turn := (before.flatMap (Channel.closingActs g.bench.toRack)).foldl carryOut g.bench
    g.bench.toRack.Counts Rack.never (usersOf · before) turn.toRack
      ∧ turn.scheduler.subscriptions = g.bench.scheduler.subscriptions.filter
        (fun s => !before.any (·.subscription.id == s.id))
      ∧ c.raises turn.toRack = c.raises g.bench.toRack
  once : g.bench.toRack.Counts Rack.never (usersOf · g.opened) closed.bench.toRack
  opened : closed.openNames = []
  subscriptions : closed.bench.scheduler.subscriptions = []
  fails_iff : (∃ e, result = .error e) ↔ ∃ c ∈ g.opened, ∃ f, c.raises g.bench.toRack = some f
  tells : ∀ e, result = .error e → Tells e g.opened g.bench.toRack
  again : closed.closeAll = (.ok (), closed)

end Registry

namespace Scene

open Registry (closeFailures)

variable {m : Scene}

/-- Whatever faults links raise, closing every channel closes them all and tells the faults. -/
theorem Reached.closeAll_exhaustive (reached : Reached m) :
    m.registry.ClosesEvery m.registry.closeAll.1 m.registry.closeAll.2
      ∧ m.registry.ClosesEvery m.registry.reset.1 m.registry.reset.2 := by
  have held := reached.balanced.held
  have coherent := reached.coherent
  obtain ⟨once, -, left⟩ := Registry.closeInTurn_spec held m.registry.bench
  rw [Registry.reset, and_self, Registry.closeAll_eq held]
  refine ⟨rfl, fun before c after split => ?_, once, rfl, ?_, ?_, fun e failed => ?_, rfl⟩
  · have held' : ∀ d ∈ before ++ c :: after, d.link.IsHeld := split ▸ held
    obtain ⟨counts, faults, kept⟩ := Registry.closeInTurn_spec
      (fun d there => held' d (List.mem_append_left _ there)) m.registry.bench
    have own := held' c (List.mem_append_right _ List.mem_cons_self)
    refine ⟨counts, kept, ?_⟩
    rw [Channel.raises_of_held own, Channel.raises_of_held own]
    exact congrFun (faults c.link.endpoint) .close
  · -- Every live subscription is that of an open channel.
    refine left.trans (List.filter_eq_nil_iff.mpr fun s live => ?_)
    obtain ⟨c, there, same⟩ := coherent.live s live
    simpa using ⟨c, there, congrArg Subscription.id same⟩
  · split
    · next none =>
      refine iff_of_false nofun ?_
      rintro ⟨c, there, f, raised⟩
      exact Registry.closeFailures_eq_nil_iff.mp none c there f raised
    · next some =>
      refine iff_of_true ⟨_, rfl⟩ ?_
      simpa [Registry.closeFailures_eq_nil_iff] using some
  · split at failed
    · cases failed
    · next some =>
      cases failed
      exact Registry.tells_closing coherent.names some

/-- Three channels, of which the first and the last fail to close. -/
def halting : Registry :=
  Registry.performAll
    [.start, .openChannel "A" 9600 8, .openChannel "B" 9600 8, .openChannel "C" 9600 8,
      .device (.setFault "/dev/a" .close (some ⟨.serialPort, "gone"⟩)),
      .device (.setFault "/dev/c" .close (some ⟨.assertion, "still busy"⟩))]
    (.make (some (.ofList [("A", .text "VA"), ("B", .text "VB"), ("C", .text "VC")]))
      (.ofList [("VA", "/dev/a"), ("VB", "/dev/b"), ("VC", "/dev/c")]) true (.make [] .usual))

/-- All three are closed, and both failures are told with their own faults. -/
theorem closeAll_exhaustive_halting :
    Reached ⟨halting, []⟩ ∧ halting.openNames = ["A", "B", "C"]
      ∧ halting.ClosesEvery halting.closeAll.1 halting.closeAll.2
      ∧ halting.closeAll.1 = .error (.closing 3
        [("A", ⟨.serialPort, "gone"⟩), ("C", ⟨.assertion, "still busy"⟩)])
      ∧ halting.closeAll.2.bench.scheduler.subscriptions = [] := by
  have reached : Reached ⟨halting, []⟩ := (reached_make ..).performAll _
  have every := reached.closeAll_exhaustive.1
  exact ⟨reached, by decide +kernel, every, by decide +kernel, every.subscriptions⟩

end Scene

end AcceptanceBench
