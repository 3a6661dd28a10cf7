import AcceptanceBench.Proofs.Coherence

/-!
Who is open, and with what. Places, links and ids are numbered as they are taken, so the open
channels stand in the order of their openings, each with a buffer, a link and a subscription of its
own; and the subscriptions that live are those of open channels.
-/

namespace AcceptanceBench

namespace Registry

/-- The number of the link that a channel was last opened with. Links are numbered from one. -/
def linkOf (g : Registry) (c : Channel) : Nat :=
  (g.links.get? c.name).getD 0

/-- The open channels are the latest ones of their names, in the order in which they took their
places, links and ids. -/
structure Ordered (g : Registry) : Prop where
  latest : ∀ c ∈ g.opened, g.latest.get? c.name = some c.buffer
  links : ∀ c ∈ g.opened, g.links.get? c.name = some (g.linkOf c)
  made : ∀ c ∈ g.opened, g.linkOf c ≤ g.made
  order : g.opened.Pairwise fun c d => c.buffer < d.buffer ∧ g.linkOf c < g.linkOf d
    ∧ c.subscription.id < d.subscription.id

variable {g g' : Registry} {c : Channel}

theorem Keeps.linkOf (keeps : Keeps g g') (c : Channel) : g'.linkOf c = g.linkOf c := by
  rw [Registry.linkOf, Registry.linkOf, keeps.links]

theorem Keeps.ordered (keeps : Keeps g g') (opened : g'.opened.Sublist g.opened)
    (ordered : g.Ordered) : g'.Ordered := by
  refine ⟨fun c there => ?_, fun c there => ?_, fun c there => ?_, ?_⟩
  · rw [keeps.latest]
    exact ordered.latest c (opened.subset there)
  · rw [keeps.links, keeps.linkOf]
    exact ordered.links c (opened.subset there)
  · rw [keeps.linkOf]
    exact Nat.le_trans (ordered.made c (opened.subset there)) keeps.made
  · refine (ordered.order.sublist opened).imp fun before => ?_
    rwa [keeps.linkOf, keeps.linkOf]

theorem Enrols.get?_latest (enrols : Enrols g g' c) (name : String) :
    g'.latest.get? name = if name = c.name then some c.buffer else g.latest.get? name := by
  rw [enrols.latest, Table.set, Table.get?_alter]

theorem Enrols.get?_links (enrols : Enrols g g' c) (name : String) :
    g'.links.get? name = if name = c.name then some g'.made else g.links.get? name := by
  rw [enrols.links, Table.set, Table.get?_alter]

theorem Enrols.linkOf (enrols : Enrols g g' c) : g'.linkOf c = g'.made := by
  rw [Registry.linkOf, enrols.get?_links, if_pos rfl]
  rfl

theorem Enrols.linkOf_of_mem (enrols : Enrols g g' c) {d : Channel} (there : d ∈ g.opened) :
    g'.linkOf d = g.linkOf d := by
  rw [Registry.linkOf, enrols.get?_links, if_neg (enrols.fresh d there), ← Registry.linkOf]

theorem Enrols.ordered (enrols : Enrols g g' c) (wired : ∀ d ∈ g.opened, d.Wired g.bench)
    (ordered : g.Ordered) : g'.Ordered := by
  have cases {P : Channel → Prop} (old : ∀ d ∈ g.opened, P d) (new : P c) :
      ∀ d ∈ g'.opened, P d := by
    intro d there
    rw [enrols.opened] at there
    rcases List.mem_append.mp there with there | there
    · exact old d there
    · rwa [List.mem_singleton.mp there]
  refine ⟨cases (fun d there => ?_) ?_, cases (fun d there => ?_) ?_, cases (fun d there => ?_) ?_,
    ?_⟩
  · rw [enrols.get?_latest, if_neg (enrols.fresh d there)]
    exact ordered.latest d there
  · rw [enrols.get?_latest, if_pos rfl]
  · rw [enrols.get?_links, if_neg (enrols.fresh d there), enrols.linkOf_of_mem there]
    exact ordered.links d there
  · rw [enrols.get?_links, if_pos rfl, enrols.linkOf]
  · rw [enrols.linkOf_of_mem there]
    exact Nat.le_trans (ordered.made d there) (Nat.le_of_lt enrols.made)
  · exact Nat.le_of_eq enrols.linkOf
  · rw [enrols.opened, List.pairwise_append]
    refine ⟨ordered.order.imp_of_mem fun first second before => ?_, List.pairwise_singleton _ _,
      fun d there e new => ?_⟩
    · rwa [enrols.linkOf_of_mem first, enrols.linkOf_of_mem second]
    · rw [List.mem_singleton.mp new, enrols.linkOf_of_mem there, enrols.linkOf, enrols.place,
        enrols.subscription]
      exact ⟨(wired d there).place, Nat.lt_of_le_of_lt (ordered.made d there) enrols.made,
        (wired d there).id⟩

theorem scheduler_note_foldl (notices : List Notice) (b : Bench) :
    (notices.foldl (fun b n => b.note n) b).scheduler = b.scheduler := by
  rw [Bench.foldl_note]
  rfl

theorem scheduler_of_enrol_error {name : String} {link : Link} {e : Error}
    (fails : g.enrol name link = (.error e, g')) : g'.bench.scheduler = g.bench.scheduler := by
  rw [enrol_eq] at fails
  split at fails
  · cases fails
  · cases fails
    rfl

/-- An opening that fails leaves the scheduler as it is. -/
theorem scheduler_of_openChannel_error {name : String} {baud bits : Whole} {e : Error}
    (fails : g.openChannel name baud bits = (.error e, g')) :
    g'.bench.scheduler = g.bench.scheduler := by
  rcases g.openChannel_cases name baud bits with
    ⟨e', notices, opened⟩ | ⟨-, link, r, -, ⟨e', -, opened⟩ | ⟨held, -, opened⟩⟩ <;>
    rw [opened] at fails
  · cases fails
    exact scheduler_note_foldl notices g.bench
  · cases fails
    rfl
  · exact scheduler_of_enrol_error (g := g.linkMade r) fails

end Registry

namespace Scene

open Registry (Keeps Enrols)

variable {m m' : Scene}

/-- A channel is entered as the latest of its name, or else all entries stay as they are. -/
theorem Next.entries (next : Next m m') (distinct : (m.registry.opened.map (·.name)).Nodup) :
    (Keeps m.registry m'.registry ∧ m'.registry.opened.Sublist m.registry.opened)
      ∨ ∃ c, Enrols m.registry m'.registry c := by
  cases next with
  | tick t => exact Or.inl ⟨⟨rfl, rfl, Nat.le_refl _⟩, .refl _⟩
  | @openChannel g name baud bits =>
    rcases g.openChannel_spec name baud bits with ⟨c, -, enrols⟩ | ⟨-, closes⟩
    · exact Or.inr ⟨c, enrols⟩
    · exact Or.inl ⟨closes.toKeeps, closes.opened⟩
  | close name =>
    have closes := Registry.closes_close name distinct
    exact Or.inl ⟨closes.toKeeps, closes.opened⟩
  | @closeAll g =>
    obtain ⟨closes, -⟩ := g.closes_closeAll
    exact Or.inl ⟨closes.toKeeps, closes.opened⟩
  | @write g name data =>
    have closes := g.closes_write name data
    exact Or.inl ⟨closes.toKeeps, closes.opened⟩
  | @resetData g name =>
    have closes := g.closes_resetData name
    exact Or.inl ⟨closes.toKeeps, closes.opened⟩

theorem Reached.ordered (reached : Reached m) : m.registry.Ordered := by
  obtain ⟨channels, environ, serial, ports, interval, threadName, course⟩ := reached
  induction course with
  | refl => exact ⟨by simp [Registry.make], by simp [Registry.make], by simp [Registry.make], .nil⟩
  | tail before next ih =>
    have coherent := Reached.coherent ⟨_, _, _, _, _, _, before⟩
    rcases next.entries coherent.names with ⟨keeps, opened⟩ | ⟨c, enrols⟩
    · exact keeps.ordered opened ih
    · exact enrols.ordered coherent.wired ih

/-- No subscription of a channel that was closed is live. -/
theorem Reached.closed_silent (reached : Reached m) (course : Course m m') {c : Channel}
    (there : c ∈ m.registry.opened) (closed : c ∉ m'.registry.opened) :
    ∀ s ∈ m'.registry.bench.scheduler.subscriptions, s.id ≠ c.subscription.id := by
  intro s live same
  obtain ⟨d, there', rfl⟩ := (reached.course course).coherent.live s live
  rcases (reached.opened_since course).2 d there' with old | new
  · have own := List.inj_on_of_nodup_map reached.coherent.ids old there same
    exact closed (own ▸ there')
  · have given := (reached.coherent.wired c there).id
    omega

/-- Open channels have names, buffers, links and subscriptions of their own, and are listed in the
order of their latest openings. Every live subscription is that of exactly one of them, with the
channel's name, link and buffer; a channel without a name lends it that of its endpoint. So neither
a closed channel nor one that failed to open has a live subscription. -/
theorem Reached.subscriptions_coherent (reached : Reached m) :
    let g := m.registry
    g.openNames.Nodup
      ∧ (g.opened.Pairwise fun c d => c.buffer < d.buffer ∧ g.linkOf c < g.linkOf d
        ∧ c.subscription.id < d.subscription.id)
      ∧ (∀ c ∈ g.opened, g.latest.get? c.name = some c.buffer
        ∧ g.links.get? c.name = some (g.linkOf c))
      ∧ (∀ s ∈ g.bench.scheduler.subscriptions, ∃! c, c ∈ g.opened ∧ c.subscription = s
        ∧ s.name = (if c.name = "" then c.link.endpoint else c.name) ∧ s.link = c.link
        ∧ s.sink = .buffer c.buffer)
      ∧ (∀ c ∈ g.opened, ∀ later, Course m later → c ∉ later.registry.opened →
        ∀ s ∈ later.registry.bench.scheduler.subscriptions, s.id ≠ c.subscription.id)
      ∧ ∀ name baud bits e g', g.openChannel name baud bits = (.error e, g') →
        g'.bench.scheduler.subscriptions = g.bench.scheduler.subscriptions := by
  have coherent := reached.coherent
  have ordered := reached.ordered
  intro g
  refine ⟨coherent.names, ordered.order, fun c there => ?_, fun s live => ?_, ?_, ?_⟩
  · exact ⟨ordered.latest c there, ordered.links c there⟩
  · obtain ⟨c, there, rfl⟩ := coherent.live s live
    have wired := coherent.wired c there
    refine ⟨c, ⟨there, rfl, wired.name, wired.link, wired.sink⟩, fun d other => ?_⟩
    obtain ⟨there', same, -⟩ := other
    exact List.inj_on_of_nodup_map coherent.ids there' there (congrArg Subscription.id same)
  · intro c there later course closed
    exact reached.closed_silent course there closed
  · intro name baud bits e g' fails
    rw [Registry.scheduler_of_openChannel_error fails]

/-- Three openings of two channels: one was closed in between. -/
def reopened : Registry :=
  Registry.performAll
    [.start, .openChannel "Serial" 9600 8, .openChannel "Serial1" 9600 8, .close "Serial",
      .openChannel "Serial" 9600 8]
    (.make none (.ofList [("HIL_SERIAL_DEV", "/dev/a"), ("HIL_SERIAL1_DEV", "/dev/a")]) false
      (.make [] .usual))

/-- The channel that was closed and opened again is listed last, with a new link, and its live
subscription is that of no other channel. -/
theorem subscriptions_coherent_reopened :
    Reached ⟨reopened, []⟩ ∧ reopened.openNames = ["Serial1", "Serial"]
      ∧ reopened.opened.map reopened.linkOf = [2, 3]
      ∧ ∀ s ∈ reopened.bench.scheduler.subscriptions, ∃! c, c ∈ reopened.opened ∧ c.subscription = s
        ∧ s.name = (if c.name = "" then c.link.endpoint else c.name) ∧ s.link = c.link
        ∧ s.sink = .buffer c.buffer := by
  have reached : Reached ⟨reopened, []⟩ := (reached_make ..).performAll _
  obtain ⟨-, -, -, live, -⟩ := reached.subscriptions_coherent
  exact ⟨reached, by decide +kernel, by decide +kernel, live⟩

/-- An open channel without a name. -/
def nameless : Registry :=
  Registry.performAll [.start, .openChannel "" 9600 8]
    (.make (some (.ofList [("", .text "V")])) (.ofList [("V", "/dev/a")]) false (.make [] .usual))

/-- So the subscription of an open channel does not always have the channel's name. -/
theorem not_named_nameless : ¬ ∀ m, Reached m → ∀ s ∈ m.registry.bench.scheduler.subscriptions,
    ∃ c ∈ m.registry.opened, c.subscription = s ∧ s.name = c.name := by
  intro named
  have reached : Reached ⟨nameless, []⟩ := (reached_make ..).performAll _
  have live : nameless.bench.scheduler.subscriptions.map (·.name) = ["/dev/a"] := by decide +kernel
  have names : nameless.openNames = [""] := by decide +kernel
  obtain ⟨s, there, endpoint⟩ : ∃ s ∈ nameless.bench.scheduler.subscriptions, s.name = "/dev/a" :=
    List.mem_map.mp (by rw [live]; exact List.mem_singleton_self _)
  obtain ⟨c, opened, -, same⟩ := named _ reached s there
  have blank : c.name ∈ nameless.openNames := List.mem_map_of_mem opened
  rw [names, ← same, endpoint] at blank
  simp at blank

end Scene

end AcceptanceBench
