import AcceptanceBench.Proofs.LinkUse
import AcceptanceBench.Proofs.Scene

/-!
What keeps a registry and its scheduler together. Each operation of the registry reads nothing, and
closes channels or enrols one; so every live subscription is that of an open channel throughout.
-/

namespace AcceptanceBench

open Bench (Serves Spares Shrinks)

namespace Registry

/-- What names were last opened with is as it was; more links may have been made. -/
structure Keeps (g g' : Registry) : Prop where
  latest : g'.latest = g.latest
  links : g'.links = g.links
  made : g.made ≤ g'.made

/-- Some channels may have been closed; no subscription of theirs is left. -/
structure Closes (g g' : Registry) : Prop extends Keeps g g' where
  spares : Spares g.bench g'.bench
  shrinks : Shrinks g.bench g'.bench
  opened : g'.opened.Sublist g.opened
  gone : ∀ c ∈ g.opened, c ∉ g'.opened →
    ∀ s ∈ g'.bench.scheduler.subscriptions, s.id ≠ c.subscription.id

/-- One more channel is open, with a place, a link, an id and a name of its own. -/
structure Enrols (g g' : Registry) (c : Channel) : Prop where
  spares : Spares g.bench g'.bench
  opened : g'.opened = g.opened ++ [c]
  fresh : ∀ d ∈ g.opened, d.name ≠ c.name
  place : c.buffer = g.bench.buffers.length
  places : g'.bench.buffers.length = g.bench.buffers.length + 1
  subscription : c.subscription = ⟨g.bench.scheduler.nextId,
    if c.name = "" then c.link.endpoint else c.name, c.link, .buffer c.buffer⟩
  subscriptions : g'.bench.scheduler.subscriptions
    = g.bench.scheduler.subscriptions ++ [c.subscription]
  nextId : g'.bench.scheduler.nextId = g.bench.scheduler.nextId + 1
  latest : g'.latest = g.latest.set c.name c.buffer
  links : g'.links = g.links.set c.name g'.made
  made : g.made < g'.made

/-- A registry that keeps its channels and its scheduler closes nothing. -/
theorem closes_of_spares {g g' : Registry} (keeps : Keeps g g') (spares : Spares g.bench g'.bench)
    (shrinks : Shrinks g.bench g'.bench) (opened : g'.opened = g.opened) : Closes g g' :=
  ⟨keeps, spares, shrinks, opened ▸ .refl _, fun _ there gone => absurd (opened ▸ there) gone⟩

theorem spares_rack {b : Bench} {r : Rack} (grown : b.toRack.Grows r) :
    Spares b { b with toRack := r } :=
  Bench.spares_of_grows rfl rfl rfl grown

/-- A place that no buffer has taken has received nothing, and neither has a new buffer. -/
theorem spares_empty (b : Bench) (name : String) (scheduler : Scheduler) :
    Spares b { b with scheduler, buffers := b.buffers ++ [.empty name] } := by
  refine ⟨rfl, rfl, by simp, fun index => ?_, .refl _⟩
  simp only [Bench.buffer]
  rcases Nat.lt_trichotomy index b.buffers.length with below | here | above
  · rw [List.getElem?_append_left below]
  · subst here
    simp [Buffer.received, Buffer.empty]
  · rw [List.getElem?_eq_none (by simp; omega), List.getElem?_eq_none (Nat.le_of_lt above)]

/-- What a reset discards was received all the same. -/
theorem spares_reset (b : Bench) (place : Nat) :
    Spares b { b with buffers := b.buffers.modify place .reset } := by
  refine ⟨rfl, rfl, by simp, fun index => ?_, .refl _⟩
  simp only [Bench.buffer, List.getElem?_modify]
  cases b.buffers[index]? with
  | none => simp
  | some buffer =>
    by_cases own : place = index
    · simp [own, Buffer.received, Buffer.reset]
    · simp [own]

theorem spares_note_foldl (b : Bench) (notices : List Notice) :
    Spares b (notices.foldl (fun b n => b.note n) b)
      ∧ Shrinks b (notices.foldl (fun b n => b.note n) b) := by
  rw [Bench.foldl_note]
  exact ⟨Bench.spares_of_same rfl rfl rfl rfl, Bench.shrinks_of_same rfl rfl⟩

/-- Only the rack has changed, and nothing was taken from its devices. -/
theorem closes_rack (g : Registry) {r : Rack} (grown : g.bench.toRack.Grows r) :
    Closes g (g.onBench fun b => { b with toRack := r }) :=
  closes_of_spares ⟨rfl, rfl, Nat.le_refl _⟩ (spares_rack grown) (Bench.shrinks_of_same rfl rfl) rfl

theorem closes_refl (g : Registry) : Closes g g :=
  closes_of_spares ⟨rfl, rfl, Nat.le_refl _⟩ (Bench.spares_of_same rfl rfl rfl rfl)
    (Bench.shrinks_of_same rfl rfl) rfl

/-- Making a link closes nothing either. -/
theorem closes_linkMade (g : Registry) {r : Rack} (grown : g.bench.toRack.Grows r) :
    Closes g (g.linkMade r) :=
  closes_of_spares ⟨rfl, rfl, Nat.le_succ _⟩ (spares_rack grown) (Bench.shrinks_of_same rfl rfl) rfl

theorem Closes.after_linkMade {g g' : Registry} {r : Rack} (grown : g.bench.toRack.Grows r)
    (closes : Closes (g.linkMade r) g') : Closes g g' := by
  have same : Shrinks g.bench (g.linkMade r).bench := Bench.shrinks_of_same rfl rfl
  exact ⟨⟨closes.latest, closes.links, Nat.le_trans (Nat.le_succ _) closes.made⟩,
    (spares_rack grown).trans closes.spares, same.trans closes.shrinks, closes.opened, closes.gone⟩

/-- The channel that a link would be enrolled as. -/
def newcomer (g : Registry) (name : String) (link : Link) : Channel :=
  let index := g.bench.buffers.length
  ⟨name, link, index,
    ⟨g.bench.scheduler.nextId, if name = "" then link.endpoint else name, link, .buffer index⟩⟩

/-- The registry with one more channel, and a buffer and a subscription for it. -/
def enrolled (g : Registry) (c : Channel) : Registry :=
  { g with
    opened := g.opened ++ [c]
    latest := g.latest.set c.name c.buffer
    links := g.links.set c.name g.made
    bench := { g.bench with
      scheduler := { g.bench.scheduler with
        subscriptions := g.bench.scheduler.subscriptions ++ [c.subscription]
        nextId := g.bench.scheduler.nextId + 1 }
      buffers := g.bench.buffers ++ [.empty c.name] } }

/-- A link is enrolled if the scheduler runs, and closed otherwise. -/
theorem enrol_eq (g : Registry) (name : String) (link : Link) :
    g.enrol name link = if g.bench.scheduler.isRunning then
        (.ok (g.newcomer name link), g.enrolled (g.newcomer name link))
      else
        (.error (((link.disconnect g.bench.toRack).1.map Error.fault).getD
          (.notRunning (g.newcomer name link).subscription.name g.bench.scheduler.threadName)),
          { g with bench := { g.bench with toRack := (link.disconnect g.bench.toRack).2 } }) := by
  unfold enrol Scheduler.subscribe
  cases g.bench.scheduler.isRunning with
  | true => rfl
  | false => rcases link.disconnect g.bench.toRack with ⟨_ | f, r⟩ <;> rfl

/-- Enrolling a link makes a channel of it, which is entered with the number of the link that was
made last; or it fails and leaves the channels as they are. -/
theorem enrol_spec (g : Registry) {r : Rack} (grown : g.bench.toRack.Grows r) {name : String}
    (link : Link) (fresh : ∀ d ∈ g.opened, d.name ≠ name) :
    (∃ c, ((g.linkMade r).enrol name link).1 = .ok c
        ∧ Enrols g ((g.linkMade r).enrol name link).2 c)
      ∨ (∃ e, ((g.linkMade r).enrol name link).1 = .error e)
        ∧ Closes g ((g.linkMade r).enrol name link).2 := by
  have shut := link.grows_disconnect (g.linkMade r).bench.toRack
  rw [enrol_eq]
  split
  · refine Or.inl ⟨_, rfl, ?_⟩
    exact ⟨(spares_rack grown).trans (spares_empty (g.linkMade r).bench name _), rfl, fresh, rfl,
      by simp [linkMade, enrolled], rfl, rfl, rfl, rfl, rfl, Nat.lt_succ_self _⟩
  · exact Or.inr ⟨⟨_, rfl⟩, (closes_rack (g.linkMade r) shut).after_linkMade grown⟩

theorem isNew_makeLink {g : Registry} {endpoint : String} {baud bits : Whole} {link : Link}
    (made : g.makeLink endpoint baud bits = .ok link) : link.IsNew := by
  unfold makeLink at made
  split at made
  · exact Link.isNew_makeSerial made
  · exact Link.isNew_makePlain made

/-- An opening is refused before any device is touched, or it makes a link for a name that is not
open, connects the link, and enrols it if that succeeds. -/
theorem openChannel_cases (name : String) (baud bits : Whole) (g : Registry) :
    (∃ (e : Error) (notices : List Notice), g.openChannel name baud bits
        = (.error e, g.onBench fun b => notices.foldl (fun b n => b.note n) b))
      ∨ (∀ d ∈ g.opened, d.name ≠ name) ∧ ∃ link r, Link.IsNew link
        ∧ ((∃ e, link.connect ("open " ++ name) g.bench.toRack = (.error e, r)
            ∧ g.openChannel name baud bits = (.error e, g.linkMade r))
          ∨ ∃ held, link.connect ("open " ++ name) g.bench.toRack = (.ok held, r)
            ∧ g.openChannel name baud bits = (g.linkMade r).enrol name held) := by
  unfold openChannel
  split
  · exact Or.inl ⟨_, [], rfl⟩
  · rename_i closed
    have fresh : ∀ d ∈ g.opened, d.name ≠ name := by
      simpa [isOpen, find?] using closed
    dsimp only
    cases devicePath g.channels g.environ name with
    | error e => exact Or.inl ⟨_, _, rfl⟩
    | ok endpoint =>
      dsimp only
      cases made : g.makeLink endpoint baud bits with
      | error e => exact Or.inl ⟨_, [], rfl⟩
      | ok link =>
        refine Or.inr ⟨fresh, link, ?_⟩
        rcases connected : link.connect ("open " ++ name) g.bench.toRack with ⟨e | held, r⟩
        · exact ⟨r, isNew_makeLink made, Or.inl ⟨e, rfl, by simp [connected]⟩⟩
        · exact ⟨r, isNew_makeLink made, Or.inr ⟨held, rfl, by simp [connected]⟩⟩

/-- Opening a channel enrols it, or fails and leaves the channels as they are. -/
theorem openChannel_spec (name : String) (baud bits : Whole) (g : Registry) :
    (∃ c, (g.openChannel name baud bits).1 = .ok c ∧ Enrols g (g.openChannel name baud bits).2 c)
      ∨ (∃ e, (g.openChannel name baud bits).1 = .error e)
        ∧ Closes g (g.openChannel name baud bits).2 := by
  rcases g.openChannel_cases name baud bits with
    ⟨e, notices, opened⟩ | ⟨fresh, link, r, -, ⟨e, connected, opened⟩ | ⟨held, connected, opened⟩⟩
  · rw [opened]
    obtain ⟨spares, shrinks⟩ := spares_note_foldl g.bench notices
    exact Or.inr ⟨⟨e, rfl⟩, closes_of_spares ⟨rfl, rfl, Nat.le_refl _⟩ spares shrinks rfl⟩
  · have grown := link.grows_connect ("open " ++ name) g.bench.toRack
    rw [connected] at grown
    rw [opened]
    exact Or.inr ⟨⟨e, rfl⟩, closes_linkMade g grown⟩
  · have grown := link.grows_connect ("open " ++ name) g.bench.toRack
    rw [connected] at grown
    rw [opened]
    exact enrol_spec g grown held fresh

/-- Shutting a channel down ends its subscription and takes nothing from its device. -/
theorem shutDown_spec (c : Channel) (b : Bench) :
    Spares b (shutDown c b).2 ∧ Shrinks b (shutDown c b).2
      ∧ ∀ s ∈ (shutDown c b).2.scheduler.subscriptions, s.id ≠ c.subscription.id := by
  have grown := c.link.grows_disconnect b.toRack
  refine ⟨Bench.spares_of_grows rfl rfl rfl grown, ⟨List.filter_sublist, rfl, rfl, Or.inr⟩, ?_⟩
  intro s member
  simpa using (List.mem_filter.mp member).2

theorem shutDownAll_spec (cs : List Channel) (b : Bench) :
    Spares b (shutDownAll cs b).2 ∧ Shrinks b (shutDownAll cs b).2
      ∧ ∀ c ∈ cs, ∀ s ∈ (shutDownAll cs b).2.scheduler.subscriptions,
        s.id ≠ c.subscription.id := by
  induction cs generalizing b with
  | nil =>
    exact ⟨Bench.spares_of_same rfl rfl rfl rfl, Bench.shrinks_of_same rfl rfl, by simp⟩
  | cons c rest ih =>
    obtain ⟨spares, shrinks, gone⟩ := shutDown_spec c b
    have onward (later : Bench) (noted : Spares (shutDown c b).2 later)
        (same : Shrinks (shutDown c b).2 later) :
        Spares b (shutDownAll rest later).2 ∧ Shrinks b (shutDownAll rest later).2
          ∧ ∀ d ∈ c :: rest, ∀ s ∈ (shutDownAll rest later).2.scheduler.subscriptions,
            s.id ≠ d.subscription.id := by
      obtain ⟨spares', shrinks', gone'⟩ := ih later
      refine ⟨(spares.trans noted).trans spares', (shrinks.trans same).trans shrinks', ?_⟩
      intro d member s left
      rcases List.mem_cons.mp member with rfl | member
      · exact gone s (same.subscriptions.subset (shrinks'.subscriptions.subset left))
      · exact gone' d member s left
    unfold shutDownAll
    dsimp only
    cases (shutDown c b).1 with
    | none =>
      exact onward _ (Bench.spares_of_same rfl rfl rfl rfl) (Bench.shrinks_of_same rfl rfl)
    | some f =>
      exact onward _ (Bench.spares_of_same rfl rfl rfl rfl) (Bench.shrinks_of_same rfl rfl)

theorem mem_of_active {g : Registry} {name : String} {c : Channel}
    (active : g.active name = .ok c) : c ∈ g.opened ∧ c.name = name := by
  unfold Registry.active at active
  cases found : g.find? name with
  | none => simp [found] at active
  | some d =>
    simp only [found, Except.ok.injEq] at active
    subst active
    exact ⟨List.mem_of_find?_eq_some found, by simpa using List.find?_some found⟩

/-- Closing a channel leaves the others open, where their names differ. -/
theorem closes_close (name : String) {g : Registry} (distinct : (g.opened.map (·.name)).Nodup) :
    Closes g (g.close name).2 := by
  unfold close
  cases active : g.active name with
  | error e => exact closes_refl g
  | ok c =>
    obtain ⟨member, named⟩ := mem_of_active active
    obtain ⟨spares, shrinks, gone⟩ := shutDown_spec c g.bench
    have closed : Closes g { g with
        opened := g.opened.filter (·.name != name), bench := (shutDown c g.bench).2 } := by
      refine ⟨⟨rfl, rfl, Nat.le_refl _⟩, spares, shrinks, List.filter_sublist,
        fun d there left s live => ?_⟩
      have same : d.name = c.name := by
        by_contra other
        exact left (List.mem_filter.mpr ⟨there, by simpa [← named] using other⟩)
      rw [List.inj_on_of_nodup_map distinct there member same]
      exact gone s live
    dsimp only
    cases (shutDown c g.bench).1 with
    | none => exact closed
    | some f => exact closed

theorem closes_closeAll (g : Registry) :
    Closes g g.closeAll.2 ∧ g.closeAll.2.opened = [] := by
  obtain ⟨spares, shrinks, gone⟩ := shutDownAll_spec g.opened g.bench
  have closed : Closes g { g with opened := [], bench := (shutDownAll g.opened g.bench).2 } :=
    ⟨⟨rfl, rfl, Nat.le_refl _⟩, spares, shrinks, List.nil_sublist _, fun c there _ => gone c there⟩
  unfold closeAll
  dsimp only
  split
  · exact ⟨closed, rfl⟩
  · exact ⟨closed, rfl⟩

theorem closes_write (name : String) (data : Data) (g : Registry) :
    Closes g (g.write name data).2 := by
  unfold write
  cases g.active name with
  | error e => exact closes_refl g
  | ok c => exact closes_rack g (c.link.grows_write data.outbound ("write " ++ name) g.bench.toRack)

theorem closes_resetData (name : String) (g : Registry) : Closes g (g.resetData name).2 := by
  unfold resetData
  cases g.active name with
  | error e => exact closes_refl g
  | ok c =>
    exact closes_of_spares ⟨rfl, rfl, Nat.le_refl _⟩ (spares_reset _ c.buffer)
      (Bench.shrinks_of_same rfl rfl) rfl

end Registry

/-- A channel's subscription reads its link for its buffer, which has a place on the bench. -/
structure Channel.Wired (c : Channel) (b : Bench) : Prop where
  name : c.subscription.name = if c.name = "" then c.link.endpoint else c.name
  link : c.subscription.link = c.link
  sink : c.subscription.sink = .buffer c.buffer
  place : c.buffer < b.buffers.length
  id : c.subscription.id < b.scheduler.nextId

theorem Channel.Wired.mono {c : Channel} {b b' : Bench} (wired : c.Wired b)
    (places : b.buffers.length ≤ b'.buffers.length)
    (nextId : b.scheduler.nextId ≤ b'.scheduler.nextId) : c.Wired b' :=
  ⟨wired.name, wired.link, wired.sink, Nat.lt_of_lt_of_le wired.place places,
    Nat.lt_of_lt_of_le wired.id nextId⟩

theorem Registry.Enrols.wired {g g' : Registry} {c : Channel} (enrols : Enrols g g' c) :
    c.Wired g'.bench := by
  have subscription := enrols.subscription
  refine ⟨by rw [subscription], by rw [subscription], by rw [subscription], ?_, ?_⟩
  · rw [enrols.places, enrols.place]
    exact Nat.lt_succ_self _
  · rw [enrols.nextId, subscription]
    exact Nat.lt_succ_self _

namespace Scene

open Registry (Closes Enrols)

/-- At the bench a link is read or nothing is, and the channels stay; between rounds the registry
reads nothing, and closes channels or enrols one. -/
theorem Next.spec {m m' : Scene} (next : Next m m')
    (distinct : (m.registry.opened.map (·.name)).Nodup) :
    (Shrinks m.registry.bench m'.registry.bench ∧ m'.registry.opened = m.registry.opened
      ∧ ((∃ s, m.awaiting = s :: m'.awaiting ∧ Serves s m.registry.bench m'.registry.bench)
        ∨ Spares m.registry.bench m'.registry.bench ∧ (m'.awaiting = m.awaiting
          ∨ m'.awaiting = m.registry.bench.scheduler.subscriptions)))
      ∨ m'.awaiting = [] ∧ (Closes m.registry m'.registry
        ∨ ∃ c, Enrols m.registry m'.registry c) := by
  cases next with
  | tick t =>
    refine Or.inl ?_
    rcases t.spec with turn | ⟨idle, idle', spares, shrinks⟩
    · obtain ⟨shrinks, did⟩ := turn.spec
      refine ⟨shrinks, rfl, did.imp_right fun ⟨spares, awaiting⟩ => ⟨spares, ?_⟩⟩
      exact awaiting.imp_right fun ⟨_, begun⟩ => begun
    · exact ⟨shrinks, rfl, Or.inr ⟨spares, Or.inl (idle'.trans idle.symm)⟩⟩
  | @openChannel g name baud bits =>
    refine Or.inr ⟨rfl, ?_⟩
    rcases g.openChannel_spec name baud bits with ⟨c, -, enrols⟩ | ⟨-, closes⟩
    · exact Or.inr ⟨c, enrols⟩
    · exact Or.inl closes
  | close name => exact Or.inr ⟨rfl, Or.inl (Registry.closes_close name distinct)⟩
  | @closeAll g => exact Or.inr ⟨rfl, Or.inl g.closes_closeAll.1⟩
  | @write g name data => exact Or.inr ⟨rfl, Or.inl (g.closes_write name data)⟩
  | @resetData g name => exact Or.inr ⟨rfl, Or.inl (g.closes_resetData name)⟩

/-- Every live subscription, and every one that awaits its turn, is that of an open channel. Open
channels are wired to names, places and ids of their own. -/
structure Coherent (m : Scene) : Prop where
  live : ∀ s ∈ m.registry.bench.scheduler.subscriptions, ∃ c ∈ m.registry.opened, c.subscription = s
  awaiting : ∀ s ∈ m.awaiting, ∃ c ∈ m.registry.opened, c.subscription = s
  wired : ∀ c ∈ m.registry.opened, c.Wired m.registry.bench
  names : (m.registry.opened.map (·.name)).Nodup
  places : (m.registry.opened.map (·.buffer)).Nodup
  ids : (m.registry.opened.map (·.subscription.id)).Nodup
  delivered : ∀ d ∈ m.registry.bench.deliveries,
    d.subscription.id < m.registry.bench.scheduler.nextId

theorem coherent_of_closes {m m' : Scene} (closes : Closes m.registry m'.registry)
    (idle : m'.awaiting = []) (coherent : m.Coherent) : m'.Coherent := by
  refine ⟨fun s live => ?_, by simp [idle], fun c there => ?_, ?_, ?_, ?_, fun d delivered => ?_⟩
  · obtain ⟨c, there, rfl⟩ := coherent.live s (closes.shrinks.subscriptions.subset live)
    refine ⟨c, ?_, rfl⟩
    by_contra left
    exact closes.gone c there left _ live rfl
  · exact (coherent.wired c (closes.opened.subset there)).mono closes.spares.places
      (Nat.le_of_eq closes.shrinks.nextId.symm)
  · exact coherent.names.sublist (closes.opened.map _)
  · exact coherent.places.sublist (closes.opened.map _)
  · exact coherent.ids.sublist (closes.opened.map _)
  · rw [closes.spares.deliveries] at delivered
    rw [closes.shrinks.nextId]
    exact coherent.delivered d delivered

theorem coherent_of_enrols {m m' : Scene} {c : Channel} (enrols : Enrols m.registry m'.registry c)
    (idle : m'.awaiting = []) (coherent : m.Coherent) : m'.Coherent := by
  have id : c.subscription.id = m.registry.bench.scheduler.nextId := by rw [enrols.subscription]
  refine ⟨fun s live => ?_, by simp [idle], fun d there => ?_, ?_, ?_, ?_, fun d delivered => ?_⟩
  · rw [enrols.subscriptions] at live
    rw [enrols.opened]
    rcases List.mem_append.mp live with old | new
    · obtain ⟨d, there, same⟩ := coherent.live s old
      exact ⟨d, List.mem_append_left _ there, same⟩
    · exact ⟨c, List.mem_append_right _ (List.mem_singleton_self c),
        (List.mem_singleton.mp new).symm⟩
  · rw [enrols.opened] at there
    rcases List.mem_append.mp there with old | new
    · exact (coherent.wired d old).mono enrols.spares.places (enrols.nextId.symm ▸ Nat.le_succ _)
    · rw [List.mem_singleton.mp new]
      exact enrols.wired
  · rw [enrols.opened]
    exact nodup_map_concat coherent.names enrols.fresh
  · rw [enrols.opened]
    refine nodup_map_concat coherent.places fun d there => ?_
    rw [enrols.place]
    exact Nat.ne_of_lt (coherent.wired d there).place
  · rw [enrols.opened]
    refine nodup_map_concat coherent.ids fun d there => ?_
    rw [id]
    exact Nat.ne_of_lt (coherent.wired d there).id
  · rw [enrols.spares.deliveries] at delivered
    rw [enrols.nextId]
    exact Nat.lt_succ_of_lt (coherent.delivered d delivered)

theorem Next.coherent {m m' : Scene} (next : Next m m') (coherent : m.Coherent) : m'.Coherent := by
  rcases next.spec coherent.names with ⟨shrinks, opened, did⟩ | ⟨idle, closes | ⟨c, enrols⟩⟩
  · have live : ∀ s ∈ m'.registry.bench.scheduler.subscriptions,
        ∃ c ∈ m'.registry.opened, c.subscription = s := by
      intro s member
      rw [opened]
      exact coherent.live s (shrinks.subscriptions.subset member)
    have wired (places : m.registry.bench.buffers.length ≤ m'.registry.bench.buffers.length) :
        ∀ c ∈ m'.registry.opened, c.Wired m'.registry.bench := by
      intro c there
      rw [opened] at there
      exact (coherent.wired c there).mono places (Nat.le_of_eq shrinks.nextId.symm)
    have names := opened ▸ coherent.names
    have places := opened ▸ coherent.places
    have ids := opened ▸ coherent.ids
    rcases did with ⟨s, next, serves⟩ | ⟨spares, awaiting⟩
    · have kept := wired (Nat.le_of_eq serves.places.symm)
      refine ⟨live, fun later member => ?_, kept, names, places, ids, ?_⟩
      · rw [opened]
        exact coherent.awaiting later (by simp [next, member])
      · intro d delivered
        rw [shrinks.nextId]
        rw [serves.deliveries] at delivered
        rcases List.mem_append.mp delivered with old | new
        · exact coherent.delivered d old
        · obtain ⟨c, there, same⟩ := coherent.awaiting s (by simp [next])
          rw [(Reading.of_delivery? (Option.mem_toList.mp new)).1]
          exact same ▸ (coherent.wired c there).id
    · refine ⟨live, fun later member => ?_, wired spares.places, names, places, ids, ?_⟩
      · rw [opened]
        rcases awaiting with same | begun
        · exact coherent.awaiting later (same ▸ member)
        · exact coherent.live later (begun ▸ member)
      · rw [spares.deliveries, shrinks.nextId]
        exact coherent.delivered
  · exact coherent_of_closes closes idle coherent
  · exact coherent_of_enrols enrols idle coherent

theorem Reached.coherent {m : Scene} (reached : Reached m) : m.Coherent := by
  obtain ⟨channels, environ, serial, ports, interval, threadName, course⟩ := reached
  induction course with
  | refl =>
    refine ⟨?_, by simp, ?_, List.nodup_nil, List.nodup_nil, List.nodup_nil, ?_⟩
    · simp [Registry.make, Bench.make, Scheduler.stopped]
    · simp [Registry.make]
    · simp [Registry.make, Bench.make]
  | tail _ next ih => exact next.coherent ih

/-- Where no channel is open there is no subscription. -/
theorem Reached.idle {m : Scene} (reached : Reached m) (closed : m.registry.opened = []) :
    m.registry.bench.scheduler.subscriptions = [] := by
  refine List.eq_nil_iff_forall_not_mem.mpr fun s member => ?_
  obtain ⟨c, there, -⟩ := reached.coherent.live s member
  rw [closed] at there
  cases there

/-- A channel that is open later on was open before, or has an id that was given out since. -/
theorem Reached.opened_since {m m' : Scene} (reached : Reached m) (course : Course m m') :
    m.registry.bench.scheduler.nextId ≤ m'.registry.bench.scheduler.nextId
      ∧ ∀ d ∈ m'.registry.opened, d ∈ m.registry.opened
        ∨ m.registry.bench.scheduler.nextId ≤ d.subscription.id := by
  induction course with
  | refl => exact ⟨Nat.le_refl _, fun d there => Or.inl there⟩
  | tail before next ih =>
    obtain ⟨nextId, since⟩ := ih
    have names := (reached.course before).coherent.names
    rcases next.spec names with ⟨shrinks, opened, -⟩ | ⟨-, closes | ⟨c, enrols⟩⟩
    · exact ⟨shrinks.nextId ▸ nextId, fun d there => since d (opened ▸ there)⟩
    · exact ⟨closes.shrinks.nextId ▸ nextId, fun d there => since d (closes.opened.subset there)⟩
    · refine ⟨enrols.nextId ▸ Nat.le_succ_of_le nextId, fun d there => ?_⟩
      rw [enrols.opened] at there
      rcases List.mem_append.mp there with old | new
      · exact since d old
      · rw [List.mem_singleton.mp new, enrols.subscription]
        exact Or.inr nextId

end Scene

end AcceptanceBench
