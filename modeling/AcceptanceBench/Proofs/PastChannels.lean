import AcceptanceBench.Proofs.Coherence
import AcceptanceBench.Proofs.Past
import AcceptanceBench.Proofs.WaitMirror

/-!
The channels of a bench on top of a past. Opening, closing, writing and waiting come to the same
there, but for the ids and for the places of the buffers.
-/

namespace AcceptanceBench

namespace Registry

/-- The act asks what a name holds that was not opened yet. -/
def LooksBack (g : Registry) (act : RegistryAct) : Prop :=
  ∃ name, act = .contents name ∧ g.latest.get? name = none

end Registry

namespace Past

open Registry (shutDown shutDownAll)

variable {p : Past} {g g' : Registry}

/-- A channel above the past. -/
def channel (p : Past) (c : Channel) : Channel :=
  { c with buffer := p.buffers.length + c.buffer, subscription := p.subscription c.subscription }

@[simp] theorem channel_name (p : Past) (c : Channel) : (p.channel c).name = c.name := rfl

/-- An answer above the past: the ids that it tells are later ones. -/
def reply (p : Past) : Reply → Reply
  | .opened channel endpoint buffer id subscription =>
    .opened channel endpoint buffer (p.ids + id) subscription
  | .subscribed id name => .subscribed (p.ids + id) name
  | reply => reply

/-- The registry `g'` is `g` above the past, however many links were made. Its names may be known
from the past alone. -/
structure Above (p : Past) (g g' : Registry) : Prop where
  channels : g'.channels = g.channels
  environ : g'.environ = g.environ
  serial : g'.serial = g.serial
  opened : g'.opened = g.opened.map p.channel
  latest : ∀ name index, g.latest.get? name = some index →
    g'.latest.get? name = some (p.buffers.length + index)
  bench : g'.bench = p.onto g.bench
  buffered : g.bench.Buffered

theorem Above.onBench (above : p.Above g g') {b : Bench} (buffered : b.Buffered) :
    p.Above { g with bench := b } { g' with bench := p.onto b } :=
  ⟨above.channels, above.environ, above.serial, above.opened, above.latest, rfl, buffered⟩

theorem Above.rack (above : p.Above g g') : g'.bench.toRack = g.bench.toRack.under p.log :=
  congrArg Bench.toRack above.bench

theorem Above.onRack (above : p.Above g g') (r : Rack) :
    p.Above { g with bench := { g.bench with toRack := r } }
      { g' with bench := { g'.bench with toRack := r.under p.log } } := by
  refine ⟨above.channels, above.environ, above.serial, above.opened, above.latest, ?_,
    above.buffered.mono (.refl _)⟩
  rw [above.bench]
  rfl

theorem Above.find? (above : p.Above g g') (name : String) :
    g'.find? name = (g.find? name).map p.channel := by
  unfold Registry.find?
  rw [above.opened, List.find?_map]
  rfl

theorem Above.isOpen (above : p.Above g g') (name : String) : g'.isOpen name = g.isOpen name := by
  unfold Registry.isOpen
  rw [above.find?, Option.isSome_map]

theorem Above.active (above : p.Above g g') (name : String) :
    g'.active name = (g.active name).map p.channel := by
  unfold Registry.active
  rw [above.find?]
  cases g.find? name <;> rfl

theorem Above.mirrors (above : p.Above g g') : g.Mirrors (p.buffers.length + ·) g' := by
  refine ⟨fun name => ?_, fun index => ?_⟩
  · rw [above.active]
    cases g.active name <;> rfl
  · rw [above.bench]
    exact p.buffer_onto g.bench index

/-! ### Closing -/

theorem shutDown_onto (p : Past) (c : Channel) (b : Bench) :
    shutDown (p.channel c) (p.onto b) = ((shutDown c b).1, p.onto (shutDown c b).2) := by
  have removed : (p.onto b).onScheduler (·.remove (p.channel c).subscription.id)
      = p.onto (b.onScheduler (·.remove c.subscription.id)) := p.remove_onto c.subscription.id b
  have closed : (p.channel c).link.disconnect
        (p.onto (b.onScheduler (·.remove c.subscription.id))).toRack
      = ((c.link.disconnect (b.onScheduler (·.remove c.subscription.id)).toRack).1,
        (c.link.disconnect (b.onScheduler (·.remove c.subscription.id)).toRack).2.under p.log) :=
    c.link.disconnect_under p.log (b.onScheduler (·.remove c.subscription.id)).toRack
  unfold shutDown
  rw [removed]
  dsimp only
  rw [closed]
  rfl

theorem buffered_shutDown {b : Bench} (buffered : b.Buffered) (c : Channel) :
    (shutDown c b).2.Buffered :=
  buffered.mono List.filter_sublist

theorem shutDownAll_onto (p : Past) (l : List Channel) (b : Bench) :
    shutDownAll (l.map p.channel) (p.onto b)
      = ((shutDownAll l b).1, p.onto (shutDownAll l b).2) := by
  induction l generalizing b with
  | nil => rfl
  | cons c rest ih =>
    rw [List.map_cons]
    unfold shutDownAll
    rw [shutDown_onto]
    rcases shutDown c b with ⟨_ | f, later⟩
    · dsimp only
      rw [ih]
      rfl
    · dsimp only
      rw [note_onto, ih]
      rfl

theorem buffered_shutDownAll {b : Bench} (buffered : b.Buffered) (l : List Channel) :
    (shutDownAll l b).2.Buffered := by
  induction l generalizing b with
  | nil => exact buffered
  | cons c rest ih =>
    have closed := buffered_shutDown buffered c
    unfold shutDownAll
    rcases shut : shutDown c b with ⟨_ | f, later⟩ <;> rw [shut] at closed
    · exact ih closed
    · exact ih (closed.mono (.refl _))

theorem Above.closeAll (above : p.Above g g') :
    g'.closeAll.1 = g.closeAll.1 ∧ p.Above g.closeAll.2 g'.closeAll.2 := by
  have closed := p.shutDownAll_onto g.opened g.bench
  rw [← above.opened, ← above.bench] at closed
  have buffered := buffered_shutDownAll above.buffered g.opened
  unfold Registry.closeAll
  rw [closed, above.opened, List.length_map]
  dsimp only
  split
  · exact ⟨rfl, above.channels, above.environ, above.serial, rfl, above.latest, rfl, buffered⟩
  · exact ⟨rfl, above.channels, above.environ, above.serial, rfl, above.latest, rfl, buffered⟩

theorem Above.close (above : p.Above g g') (name : String) :
    (g'.close name).1 = (g.close name).1 ∧ p.Above (g.close name).2 (g'.close name).2 := by
  unfold Registry.close
  rw [above.active]
  cases g.active name with
  | error e => exact ⟨rfl, above⟩
  | ok c =>
    have closed := p.shutDown_onto c g.bench
    rw [← above.bench] at closed
    have buffered := buffered_shutDown above.buffered c
    have left : (g.opened.map p.channel).filter (·.name != name)
        = (g.opened.filter (·.name != name)).map p.channel := by
      rw [List.filter_map]
      rfl
    dsimp only [Except.map]
    rw [closed, above.opened, left]
    rcases shut : shutDown c g.bench with ⟨_ | f, later⟩ <;> rw [shut] at buffered
    · exact ⟨rfl, above.channels, above.environ, above.serial, rfl, above.latest, rfl, buffered⟩
    · exact ⟨rfl, above.channels, above.environ, above.serial, rfl, above.latest, rfl, buffered⟩

/-! ### Opening -/

theorem Above.makeLink (above : p.Above g g') (endpoint : String) (baud bits : Whole) :
    g'.makeLink endpoint baud bits = g.makeLink endpoint baud bits := by
  unfold Registry.makeLink
  rw [above.serial, above.bench]
  rfl

theorem Above.linkMade (above : p.Above g g') (r : Rack) :
    p.Above (g.linkMade r) (g'.linkMade (r.under p.log)) :=
  let placed := above.onRack r
  ⟨placed.channels, placed.environ, placed.serial, placed.opened, placed.latest, placed.bench,
    placed.buffered⟩

theorem Above.newcomer (above : p.Above g g') (name : String) (link : Link) :
    g'.newcomer name link = p.channel (g.newcomer name link) := by
  have places : (p.onto g.bench).buffers.length = p.buffers.length + g.bench.buffers.length :=
    List.length_append
  unfold Registry.newcomer
  rw [above.bench, places]
  rfl

/-- Enrolling above the past takes a later place and a later id. -/
theorem Above.enrolled (above : p.Above g g') {c : Channel} (new : c.subscription.IsBuffered) :
    p.Above (g.enrolled c) (g'.enrolled (p.channel c)) := by
  have opened : g'.opened ++ [p.channel c] = (g.opened ++ [c]).map p.channel := by
    rw [above.opened, List.map_append]
    rfl
  refine ⟨above.channels, above.environ, above.serial, opened, fun name index last => ?_, ?_, ?_⟩
  · unfold Registry.enrolled Table.set at last ⊢
    rw [Table.get?_alter] at last ⊢
    rw [channel_name]
    split at last
    · next same =>
      rw [if_pos same, ← Option.some.inj last]
      rfl
    · next other =>
      rw [if_neg other]
      exact above.latest name index last
  · unfold Registry.enrolled
    rw [above.bench]
    unfold onto scheduler
    simp only [List.map_append, List.append_assoc]
    rfl
  · intro s there
    rcases List.mem_append.mp there with old | fresh
    · exact above.buffered s old
    · rw [List.mem_singleton.mp fresh]
      exact new

theorem Above.enrol (above : p.Above g g') (name : String) (link : Link) :
    (g'.enrol name link).1 = (g.enrol name link).1.map p.channel
      ∧ p.Above (g.enrol name link).2 (g'.enrol name link).2 := by
  have enrolled := above.enrolled (c := g.newcomer name link) ⟨_, rfl⟩
  have shut := above.onRack (link.disconnect g.bench.toRack).2
  have running : g'.bench.scheduler.isRunning = g.bench.scheduler.isRunning := by
    rw [above.bench, onto_isRunning]
  have threadName : g'.bench.scheduler.threadName = g.bench.scheduler.threadName := by
    rw [above.bench, onto_threadName]
  rw [Registry.enrol_eq, Registry.enrol_eq, above.newcomer, running, threadName, above.rack,
    link.disconnect_under]
  split
  · exact ⟨rfl, enrolled⟩
  · exact ⟨rfl, shut⟩

theorem Above.openChannel (above : p.Above g g') (name : String) (baud bits : Whole) :
    (g'.openChannel name baud bits).1 = (g.openChannel name baud bits).1.map p.channel
      ∧ p.Above (g.openChannel name baud bits).2 (g'.openChannel name baud bits).2 := by
  unfold Registry.openChannel
  rw [above.isOpen, above.channels, above.environ]
  split
  · exact ⟨rfl, above⟩
  · dsimp only
    split
    · next e found =>
      have noted := above.onBench (buffered_notes above.buffered
        (lookupNotices (devicePath g.channels g.environ name)))
      rw [← notes_onto, ← above.bench] at noted
      exact ⟨rfl, noted⟩
    · next endpoint found =>
      rw [above.makeLink]
      split
      · exact ⟨rfl, above⟩
      · next link made =>
        have connected := link.connect_under p.log ("open " ++ name) g.bench.toRack
        rw [above.rack, connected]
        rcases link.connect ("open " ++ name) g.bench.toRack with ⟨e | link, r⟩
        · exact ⟨rfl, above.linkMade r⟩
        · exact (above.linkMade r).enrol name link

/-! ### Acts -/

theorem Above.write (above : p.Above g g') (name : String) (data : Data) :
    (g'.write name data).1 = (g.write name data).1
      ∧ p.Above (g.write name data).2 (g'.write name data).2 := by
  unfold Registry.write
  rw [above.active]
  cases g.active name with
  | error e => exact ⟨rfl, above⟩
  | ok c =>
    have written := c.link.write_under p.log data.outbound ("write " ++ name) g.bench.toRack
    rw [← above.rack] at written
    dsimp only [Except.map]
    rw [channel, written]
    exact ⟨rfl, above.onRack _⟩

theorem Above.resetData (above : p.Above g g') (name : String) :
    (g'.resetData name).1 = (g.resetData name).1
      ∧ p.Above (g.resetData name).2 (g'.resetData name).2 := by
  unfold Registry.resetData
  rw [above.active]
  cases g.active name with
  | error e => exact ⟨rfl, above⟩
  | ok c =>
    have emptied := above.onBench (b := { g.bench with
      buffers := g.bench.buffers.modify c.buffer .reset }) (above.buffered.mono (.refl _))
    refine ⟨rfl, emptied.channels, emptied.environ, emptied.serial, emptied.opened, emptied.latest,
      ?_, emptied.buffered⟩
    dsimp only [Except.map, Registry.onBench]
    rw [above.bench]
    unfold onto channel
    dsimp only
    rw [modify_append]

/-- Answers that tell of no id are the same above the past. -/
theorem replyWith_eq {α : Type} {reply : α → Reply} (p : Past)
    (plain : ∀ a, p.reply (reply a) = reply a) {result result' : Except Error α}
    (same : result' = result) : replyWith reply result' = (replyWith reply result).map p.reply := by
  subst same
  cases result' with
  | error e => rfl
  | ok a => exact congrArg Except.ok (plain a).symm

/-- Every act on the channels answers the same but for the ids, unless it looks at a name that only
the past may know. -/
theorem Above.perform (above : p.Above g g') (act : RegistryAct) :
    ((g'.perform act).1 = (g.perform act).1.map p.reply ∨ g.LooksBack act)
      ∧ p.Above (g.perform act).2 (g'.perform act).2 := by
  cases act with
  | device act =>
    have performed := perform_onto above.buffered p act
    have placed := above.onBench (buffered_perform above.buffered act)
    unfold Registry.perform
    dsimp only
    rw [above.bench, performed]
    refine ⟨Or.inl ?_, placed⟩
    cases act <;> rfl
  | start =>
    have placed := above.onBench (buffered_start above.buffered)
    rw [← start_onto above.buffered, ← above.bench] at placed
    exact ⟨Or.inl rfl, placed⟩
  | stop timeout =>
    have placed := above.onBench (buffered_stop above.buffered timeout)
    unfold Registry.perform
    dsimp only
    rw [above.bench, stop_onto]
    exact ⟨Or.inl (p.replyWith_eq (fun _ => rfl) rfl), placed⟩
  | openChannel name baud bits =>
    obtain ⟨result, placed⟩ := above.openChannel name baud bits
    unfold Registry.perform
    dsimp only
    refine ⟨Or.inl ?_, placed⟩
    rw [result, placed.bench]
    cases (g.openChannel name baud bits).1 with
    | error e => rfl
    | ok c =>
      have name := congrArg Buffer.name
        (p.buffer_onto (g.openChannel name baud bits).2.bench c.buffer)
      exact congrArg (fun buffer => Except.ok (Reply.opened _ _ buffer _ _)) name
  | close name =>
    obtain ⟨result, placed⟩ := above.close name
    exact ⟨Or.inl (p.replyWith_eq (fun _ => rfl) result), placed⟩
  | closeAll =>
    obtain ⟨result, placed⟩ := above.closeAll
    exact ⟨Or.inl (p.replyWith_eq (fun _ => rfl) result), placed⟩
  | write name data =>
    obtain ⟨result, placed⟩ := above.write name data
    exact ⟨Or.inl (p.replyWith_eq (fun _ => rfl) result), placed⟩
  | resetData name =>
    obtain ⟨result, placed⟩ := above.resetData name
    exact ⟨Or.inl (p.replyWith_eq (fun _ => rfl) result), placed⟩
  | isOpen name =>
    refine ⟨Or.inl ?_, above⟩
    exact congrArg (fun flag => Except.ok (Reply.flag flag)) (above.isOpen name)
  | contents name =>
    refine ⟨?_, above⟩
    cases last : g.latest.get? name with
    | none => exact Or.inr ⟨name, rfl, last⟩
    | some index =>
      refine Or.inl ?_
      unfold Registry.perform
      dsimp only
      rw [last, above.latest name index last, above.bench, Option.map_some, Option.map_some,
        buffer_onto]
      rfl
  | refused => exact ⟨Or.inl rfl, above⟩

end Past

end AcceptanceBench
