import AcceptanceBench.Proofs.Coherence
import AcceptanceBench.Proofs.LinkUse

/-!
No device is left open and none is closed twice. Whatever goes on at the bench opens and closes no
device; an open channel stands for one opening of its device that was not followed by a closing yet.
-/

namespace AcceptanceBench

/-! ### What goes on at the bench -/

namespace Moment

theorem alike_unsubscribe (b : Bench) (key : String) :
    b.toRack.Alike (b.unsubscribe key).toRack := by
  unfold Bench.unsubscribe
  cases b.handles.get? key with
  | none => exact .refl _
  | some id => exact .refl _

theorem alike_requestStop (b : Bench) : b.toRack.Alike b.requestStop.toRack := by
  unfold Bench.requestStop
  dsimp only
  split
  · exact .refl _
  · exact Rack.alike_of_same rfl

theorem alike_stopFromThread (b : Bench) : b.toRack.Alike b.stopFromThread.toRack := by
  unfold Bench.stopFromThread
  cases b.scheduler.thread with
  | none => exact .refl _
  | some t => exact alike_requestStop b

theorem alike_fetch {b later : Bench} {s : Subscription} {outcome : Except Error Bytes}
    (fetched : b.fetch s = (outcome, later)) : b.toRack.Alike later.toRack := by
  obtain ⟨-, rack, -⟩ := Bench.fetch_fields fetched
  rw [rack]
  exact s.link.alike_read b.toRack

theorem Turn.alike {m m' : Moment} (turn : Turn m m') : m.bench.toRack.Alike m'.bench.toRack := by
  cases turn with
  | beginRound alive going => exact .refl _
  | fail fetched => exact (alike_fetch fetched).trans (Rack.alike_of_same rfl)
  | pass fetched => exact alike_fetch fetched
  | @hand b later s rest c cs fetched =>
    have handed := (Bench.hand_fields later s (c :: cs)).1
    exact (alike_fetch fetched).trans (Rack.alike_of_same (congrArg Rack.devices handed))
  | unsubscribe key => exact alike_unsubscribe _ key
  | feed endpoint chunks => exact Rack.alike_alter _ endpoint fun _ => rfl
  | stop => exact alike_stopFromThread _
  | complain n => exact Rack.alike_of_same rfl
  | finish alive asked => exact .refl _

theorem counts_perform {b : Bench} {act : DeviceAct} (still : act ≠ .pump) :
    b.toRack.Counts Rack.never Rack.never (b.perform act).2.toRack := by
  have changed (endpoint : String) {change : Device → Device}
      (opens : ∀ d, (change d).opens = d.opens) (closes : ∀ d, (change d).closes = d.closes) :=
    b.toRack.counts_alter endpoint opens closes
  cases act with
  | feed endpoint chunks => exact changed endpoint (fun _ => rfl) fun _ => rfl
  | setFault endpoint stage fault => exact changed endpoint (fun _ => rfl) fun _ => rfl
  | echo endpoint => exact changed endpoint (fun _ => rfl) fun _ => rfl
  | short endpoint count => exact changed endpoint (fun _ => rfl) fun _ => rfl
  | unplug endpoint => exact changed endpoint (fun _ => rfl) fun _ => rfl
  | inspect endpoint => exact changed endpoint (fun _ => rfl) fun _ => rfl
  | pump => exact absurd rfl still
  | stick stuck => exact (Rack.Alike.refl _).counts

theorem Stir.counts {m m' : Moment} (stir : Stir m m') :
    m.bench.toRack.Counts Rack.never Rack.never m'.bench.toRack := by
  cases stir with
  | turn t => exact t.alike.counts
  | device act still => exact counts_perform still
  | launch idle => exact (Rack.Alike.refl _).counts
  | requestStop => exact (alike_requestStop _).counts

/-- Whatever goes on at the bench opens and closes no device. -/
theorem Tick.counts {m m' : Moment} (tick : Tick m m') :
    m.bench.toRack.Counts Rack.never Rack.never m'.bench.toRack := by
  cases tick with
  | stir s => exact s.counts
  | release since => exact (Rack.Alike.refl _).counts

end Moment

/-! ### What the registry does -/

/-- The number of channels on a device. -/
def usersOf (endpoint : String) (channels : List Channel) : Nat :=
  channels.countP (·.link.endpoint == endpoint)

theorem usersOf_cons (endpoint : String) (c : Channel) (rest : List Channel) :
    usersOf endpoint (c :: rest) = usersOf endpoint rest + Rack.once c.link.endpoint endpoint := by
  rw [usersOf, List.countP_cons, Rack.once]
  by_cases same : endpoint = c.link.endpoint
  · simp [usersOf, same]
  · simp [usersOf, same, Ne.symm same]

theorem usersOf_concat (endpoint : String) (channels : List Channel) (c : Channel) :
    usersOf endpoint (channels ++ [c])
      = usersOf endpoint channels + Rack.once c.link.endpoint endpoint := by
  rw [usersOf, List.countP_append, ← usersOf, ← usersOf, usersOf_cons]
  exact congrArg _ (Nat.zero_add _)

/-- Taking a channel out by its name takes out that one alone. -/
theorem usersOf_filter {channels : List Channel} (distinct : (channels.map (·.name)).Nodup)
    {c : Channel} (there : c ∈ channels) (endpoint : String) :
    usersOf endpoint channels = usersOf endpoint (channels.filter (·.name != c.name))
      + Rack.once c.link.endpoint endpoint := by
  induction channels with
  | nil => cases there
  | cons d rest ih =>
    obtain ⟨new, distinct⟩ := List.nodup_cons.mp distinct
    rcases List.mem_cons.mp there with rfl | there
    · -- No other channel has this name, so none of them is taken out.
      have others : rest.filter (·.name != c.name) = rest := by
        refine List.filter_eq_self.mpr fun d there => bne_iff_ne.mpr fun same => ?_
        exact new (List.mem_map.mpr ⟨d, there, same⟩)
      rw [List.filter_cons_of_neg (by simp), others, usersOf_cons]
    · have other : d.name ≠ c.name := fun same => new (List.mem_map.mpr ⟨c, there, same.symm⟩)
      have later := ih distinct there
      rw [List.filter_cons_of_pos (by simpa using other), usersOf_cons, usersOf_cons]
      omega

namespace Registry

theorem devices_note_foldl (notices : List Notice) (b : Bench) :
    (notices.foldl (fun b n => b.note n) b).devices = b.devices := by
  rw [Bench.foldl_note]
  rfl

/-- Enrolling an open link as a channel opens and closes nothing. If that fails the link is
closed. -/
theorem enrol_counts (g : Registry) (name : String) {link : Link} (held : link.IsHeld) :
    let enrolled := g.enrol name link
    (∃ c, enrolled.1 = .ok c ∧ enrolled.2.opened = g.opened ++ [c] ∧ c.link = link
        ∧ enrolled.2.bench.toRack = g.bench.toRack)
      ∨ (∃ e, enrolled.1 = .error e) ∧ enrolled.2.opened = g.opened
        ∧ g.bench.toRack.Counts Rack.never (Rack.once link.endpoint) enrolled.2.bench.toRack := by
  have closed := Link.counts_disconnect held g.bench.toRack
  rw [enrol_eq]
  split
  · exact Or.inl ⟨_, rfl, rfl, rfl, rfl⟩
  · exact Or.inr ⟨⟨_, rfl⟩, rfl, closed⟩

/-- Opening a channel opens its device once. An opening that fails closes the device again if it has
opened it. -/
theorem openChannel_counts (name : String) (baud bits : Whole) (g : Registry) :
    let opened := g.openChannel name baud bits
    (∃ c, opened.1 = .ok c ∧ opened.2.opened = g.opened ++ [c] ∧ c.link.IsHeld
        ∧ g.bench.toRack.Counts (Rack.once c.link.endpoint) Rack.never opened.2.bench.toRack)
      ∨ (∃ e, opened.1 = .error e) ∧ opened.2.opened = g.opened
        ∧ ∃ times : String → Nat, (∀ endpoint, times endpoint ≤ 1)
          ∧ g.bench.toRack.Counts times times opened.2.bench.toRack := by
  have unused {r r' : Rack} (alike : r.Alike r') : ∃ times : String → Nat,
      (∀ endpoint, times endpoint ≤ 1) ∧ r.Counts times times r' :=
    ⟨Rack.never, fun _ => Nat.zero_le 1, alike.counts⟩
  rcases g.openChannel_cases name baud bits with
    ⟨e, notices, opened⟩ | ⟨-, link, r, new, ⟨e, connected, opened⟩ | ⟨held, connected, opened⟩⟩
  · rw [opened]
    exact Or.inr ⟨⟨e, rfl⟩, rfl, unused (Rack.alike_of_same (devices_note_foldl _ _))⟩
  · have connects := Link.connect_spec new ("open " ++ name) g.bench.toRack
    rw [connected] at connects
    rw [opened]
    rcases connects with ⟨held, ok, -⟩ | ⟨-, alike⟩
    · cases ok
    · exact Or.inr ⟨⟨e, rfl⟩, rfl, unused alike⟩
  · have connects := Link.connect_spec new ("open " ++ name) g.bench.toRack
    rw [connected] at connects
    rw [opened]
    rcases connects with ⟨held, ok, same, holds, counts⟩ | ⟨⟨e, failed⟩, -⟩
    · cases ok
      have enrolled := enrol_counts (g.linkMade r) name holds
      rw [same] at enrolled
      rcases enrolled with ⟨c, opened, channels, rfl, rack⟩ | ⟨failed, channels, closed⟩
      · refine Or.inl ⟨c, opened, channels, holds, ?_⟩
        rw [same, rack]
        exact counts
      · refine Or.inr ⟨failed, channels, Rack.once link.endpoint, Rack.once_le _, ?_⟩
        exact (counts.trans closed).congr (fun _ => rfl) fun _ => Nat.zero_add _
    · cases failed

theorem find?_name {g : Registry} (distinct : (g.opened.map (·.name)).Nodup) {c : Channel}
    (there : c ∈ g.opened) : g.find? c.name = some c := by
  cases found : g.find? c.name with
  | none => simpa using List.find?_eq_none.mp found c there
  | some d =>
    have named : d.name = c.name := by simpa using List.find?_some found
    rw [List.inj_on_of_nodup_map distinct (List.mem_of_find?_eq_some found) there named]

theorem shutDown_counts {c : Channel} (held : c.link.IsHeld) (b : Bench) :
    b.toRack.Counts Rack.never (Rack.once c.link.endpoint) (shutDown c b).2.toRack :=
  Link.counts_disconnect held b.toRack

/-- Shutting channels down closes the device of each once, whatever faults that raises. -/
theorem shutDownAll_counts {channels : List Channel} (held : ∀ c ∈ channels, c.link.IsHeld)
    (b : Bench) :
    b.toRack.Counts Rack.never (usersOf · channels) (shutDownAll channels b).2.toRack := by
  induction channels generalizing b with
  | nil => exact (Rack.Alike.refl _).counts
  | cons c rest ih =>
    have first := shutDown_counts (held c List.mem_cons_self) b
    have onward {later : Bench} (same : (shutDown c b).2.toRack.Alike later.toRack) :
        b.toRack.Counts Rack.never (usersOf · (c :: rest)) (shutDownAll rest later).2.toRack := by
      have others := ih (fun d there => held d (List.mem_cons_of_mem c there)) later
      refine ((first.trans same.counts).trans others).congr (fun _ => rfl) fun endpoint => ?_
      rw [usersOf_cons]
      exact Nat.add_comm ..
    unfold shutDownAll
    dsimp only
    cases (shutDown c b).1 with
    | none => exact onward (.refl _)
    | some f => exact onward (Rack.alike_of_same rfl)

/-- Closing an open channel takes that channel out and closes its device once, even if the device
raises a fault. -/
theorem close_counts {g : Registry} {c : Channel} (active : g.find? c.name = some c)
    (held : c.link.IsHeld) :
    (g.close c.name).2.opened = g.opened.filter (·.name != c.name)
      ∧ g.bench.toRack.Counts Rack.never (Rack.once c.link.endpoint)
        (g.close c.name).2.bench.toRack := by
  have closed := shutDown_counts held g.bench
  unfold close Registry.active
  rw [active]
  dsimp only
  cases (shutDown c g.bench).1 with
  | none => exact ⟨rfl, closed⟩
  | some f => exact ⟨rfl, closed⟩

theorem closeAll_counts {g : Registry} (held : ∀ c ∈ g.opened, c.link.IsHeld) :
    g.closeAll.2.opened = [] ∧ g.bench.toRack.Counts Rack.never (usersOf · g.opened)
      g.closeAll.2.bench.toRack := by
  have closed := shutDownAll_counts held g.bench
  unfold closeAll
  dsimp only
  split
  · exact ⟨rfl, closed⟩
  · exact ⟨rfl, closed⟩

theorem alike_write (name : String) (data : Data) (g : Registry) :
    g.bench.toRack.Alike (g.write name data).2.bench.toRack
      ∧ (g.write name data).2.opened = g.opened := by
  unfold write
  cases g.active name with
  | error e => exact ⟨.refl _, rfl⟩
  | ok c => exact ⟨c.link.alike_write _ _ _, rfl⟩

theorem alike_resetData (name : String) (g : Registry) :
    g.bench.toRack.Alike (g.resetData name).2.bench.toRack
      ∧ (g.resetData name).2.opened = g.opened := by
  unfold resetData
  cases g.active name with
  | error e => exact ⟨.refl _, rfl⟩
  | ok c => exact ⟨.refl _, rfl⟩

end Registry

/-! ### The balance -/

namespace Scene

/-- Every open channel holds its device, and a device was opened as often as it was closed and as
there are open channels on it. -/
structure Balanced (m : Scene) : Prop where
  held : ∀ c ∈ m.registry.opened, c.link.IsHeld
  opens : ∀ endpoint, (m.registry.bench.device endpoint).opens
    = (m.registry.bench.device endpoint).closes + usersOf endpoint m.registry.opened

variable {m m' : Scene}

/-- Channels may come and go with as many openings and closings of their devices. -/
theorem balanced_of_counts {opens closes : String → Nat}
    (counts : m.registry.bench.toRack.Counts opens closes m'.registry.bench.toRack)
    (held : ∀ c ∈ m'.registry.opened, c.link.IsHeld)
    (users : ∀ endpoint, usersOf endpoint m'.registry.opened + closes endpoint
      = usersOf endpoint m.registry.opened + opens endpoint)
    (balanced : m.Balanced) : m'.Balanced := by
  refine ⟨held, fun endpoint => ?_⟩
  have before := balanced.opens endpoint
  have after := users endpoint
  obtain ⟨opened, closed⟩ := counts endpoint
  omega

theorem balanced_of_same (counts : m.registry.bench.toRack.Counts Rack.never Rack.never
      m'.registry.bench.toRack)
    (opened : m'.registry.opened = m.registry.opened) (balanced : m.Balanced) : m'.Balanced :=
  balanced_of_counts counts (opened ▸ balanced.held) (fun _ => by rw [opened]) balanced

theorem balanced_of_close {g : Registry} (name : String)
    (distinct : (g.opened.map (·.name)).Nodup) (balanced : Balanced ⟨g, []⟩) :
    Balanced ⟨(g.close name).2, []⟩ := by
  cases found : g.find? name with
  | none =>
    have same : g.close name = (.error (.notOpen name), g) := by
      rw [Registry.close, Registry.active, found]
    rw [same]
    exact balanced
  | some c =>
    have there := List.mem_of_find?_eq_some found
    obtain rfl : c.name = name := by simpa using List.find?_some found
    obtain ⟨opened, counts⟩ := Registry.close_counts found (balanced.held c there)
    refine balanced_of_counts counts (fun d left => ?_) (fun endpoint => ?_) balanced
    · rw [opened] at left
      exact balanced.held d (List.mem_filter.mp left).1
    · rw [opened]
      exact (usersOf_filter distinct there endpoint).symm

theorem Next.balanced (next : Next m m') (distinct : (m.registry.opened.map (·.name)).Nodup)
    (balanced : m.Balanced) : m'.Balanced := by
  cases next with
  | @tick g awaiting later t => exact balanced_of_same (m := ⟨g, awaiting⟩) t.counts rfl balanced
  | openChannel name baud bits =>
    rcases Registry.openChannel_counts name baud bits _ with
      ⟨c, -, opened, held, counts⟩ | ⟨-, opened, times, -, counts⟩
    · refine balanced_of_counts counts (fun d there => ?_) (fun endpoint => ?_) balanced
      · rw [opened] at there
        rcases List.mem_append.mp there with old | new
        · exact balanced.held d old
        · rw [List.mem_singleton.mp new]
          exact held
      · rw [opened]
        exact usersOf_concat ..
    · refine balanced_of_counts counts ?_ (fun endpoint => by rw [opened]) balanced
      rw [opened]
      exact balanced.held
  | close name => exact balanced_of_close name distinct balanced
  | @closeAll g =>
    obtain ⟨opened, counts⟩ := Registry.closeAll_counts balanced.held
    refine balanced_of_counts (m := ⟨g, []⟩) counts (fun c there => ?_) (fun endpoint => ?_)
      balanced
    · rw [opened] at there
      cases there
    · rw [opened]
      exact Nat.zero_add _
  | @write g name data =>
    obtain ⟨alike, opened⟩ := g.alike_write name data
    exact balanced_of_same (m := ⟨g, []⟩) alike.counts opened balanced
  | @resetData g name =>
    obtain ⟨alike, opened⟩ := g.alike_resetData name
    exact balanced_of_same (m := ⟨g, []⟩) alike.counts opened balanced

theorem Reached.balanced (reached : Reached m) : m.Balanced := by
  obtain ⟨channels, environ, serial, ports, interval, threadName, course⟩ := reached
  induction course with
  | refl => exact ⟨by simp [Registry.make], fun endpoint => rfl⟩
  | tail before next ih =>
    have names := Reached.coherent ⟨_, _, _, _, _, _, before⟩ |>.names
    exact next.balanced names ih

/-- A device was opened as often as it was closed and as there are open channels on it. An opening
that fails closes a device as often as it has opened it, which is at most once. A channel whose
closing fails was closed once by it, and is never open again; closing all channels closes each of
them once. -/
theorem Reached.devices_balanced (reached : Reached m) :
    let g := m.registry
    (∀ endpoint, (g.bench.device endpoint).opens
        = (g.bench.device endpoint).closes + usersOf endpoint g.opened)
      ∧ (∀ name baud bits e g', g.openChannel name baud bits = (.error e, g') →
        g'.opened = g.opened ∧ ∃ times : String → Nat, (∀ endpoint, times endpoint ≤ 1)
          ∧ g.bench.toRack.Counts times times g'.bench.toRack)
      ∧ (m.awaiting = [] → ∀ c ∈ g.opened, ∀ e g', g.close c.name = (.error e, g') →
        g.bench.toRack.Counts Rack.never (Rack.once c.link.endpoint) g'.bench.toRack
          ∧ g'.close c.name = (.error (.notOpen c.name), g')
          ∧ ∀ later, Course ⟨g', []⟩ later → c ∉ later.registry.opened)
      ∧ ∀ result g', g.closeAll = (result, g') →
        g'.opened = []
          ∧ g.bench.toRack.Counts Rack.never (usersOf · g.opened) g'.bench.toRack := by
  have balanced := reached.balanced
  have coherent := reached.coherent
  intro g
  refine ⟨balanced.opens, fun name baud bits e g' fails => ?_, fun idle c there e g' fails => ?_,
    fun result g' closed => ?_⟩
  · rcases Registry.openChannel_counts name baud bits g with ⟨c, opened, -⟩ | ⟨-, failed⟩
    · rw [fails] at opened
      cases opened
    · rw [fails] at failed
      exact failed
  · have found := Registry.find?_name coherent.names there
    obtain ⟨opened, counts⟩ := Registry.close_counts found (balanced.held c there)
    have closes := Registry.closes_close c.name coherent.names
    rw [fails] at opened counts closes
    have absent : c ∉ g'.opened := by
      rw [opened]
      simp
    have gone : g'.find? c.name = none := by
      rw [Registry.find?, opened]
      simp
    have reached' : Reached ⟨g', []⟩ := by
      have next := Next.close c.name (g := g)
      rw [fails] at next
      have same : (⟨g, []⟩ : Scene) = m := by rw [← idle]
      exact (same ▸ reached).course (.single next)
    refine ⟨counts, by rw [Registry.close, Registry.active, gone], fun later course again => ?_⟩
    have given := closes.shrinks.nextId ▸ (coherent.wired c there).id
    rcases (reached'.opened_since course).2 c again with old | new
    · exact absent old
    · exact absurd given (Nat.not_lt.mpr new)
  · have all := Registry.closeAll_counts balanced.held
    rw [closed] at all
    exact all

/-- Two channels on one serial port, the closing of which raises a fault. -/
def crowded : Registry :=
  Registry.performAll
    [.start, .openChannel "Serial" 9600 8, .openChannel "Serial1" 9600 8,
      .device (.setFault "/dev/a" .close (some ⟨.serialPort, "stuck"⟩))]
    (.make none (.ofList [("HIL_SERIAL_DEV", "/dev/a"), ("HIL_SERIAL1_DEV", "/dev/a")]) true
      (.make [] .usual))

/-- The device was opened twice; the closing that fails counts, and then one opening is left. -/
theorem devices_balanced_crowded :
    let g := (crowded.close "Serial").2
    Reached ⟨crowded, []⟩ ∧ crowded.openNames = ["Serial", "Serial1"]
      ∧ (crowded.bench.device "/dev/a").opens = (crowded.bench.device "/dev/a").closes + 2
      ∧ crowded.close "Serial" = (.error (.fault ⟨.serialPort, "stuck"⟩), g)
      ∧ crowded.bench.toRack.Counts Rack.never (Rack.once "/dev/a") g.bench.toRack
      ∧ g.close "Serial" = (.error (.notOpen "Serial"), g) := by
  intro g
  have reached : Reached ⟨crowded, []⟩ := (reached_make ..).performAll _
  have fails : crowded.close "Serial" = (.error (.fault ⟨.serialPort, "stuck"⟩), g) :=
    Prod.ext (by decide +kernel) rfl
  obtain ⟨opens, -, closes, -⟩ := reached.devices_balanced
  have users : usersOf "/dev/a" crowded.opened = 2 := by decide +kernel
  obtain ⟨c, there, named⟩ :
      ∃ c ∈ crowded.opened, c.name = "Serial" ∧ c.link.endpoint = "/dev/a" := by
    decide +kernel
  have closed := closes rfl c there
  rw [named.1, named.2] at closed
  obtain ⟨counts, again, -⟩ := closed _ g fails
  exact ⟨reached, by decide +kernel, users ▸ opens "/dev/a", fails, counts, again⟩

end Scene

end AcceptanceBench
