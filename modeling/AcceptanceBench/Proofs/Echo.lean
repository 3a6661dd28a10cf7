import AcceptanceBench.Proofs.Balance
import AcceptanceBench.Proofs.Outbound
import AcceptanceBench.Proofs.Stream
import Mathlib.Logic.Function.Iterate

/-!
What is written to an echoing device comes back as it was written. The bytes that a channel's buffer
has received, followed by those that wait at the device, are the bytes that were written so far; the
thread takes what waits there off the queue, however often it is interrupted.
-/

namespace AcceptanceBench

open Bench (Serves Spares)
open Moment (Turn)

/-! ### The thread -/

namespace Moment

variable {b : Bench} {s : Subscription} {place : Nat}

theorem discarded_hand (b : Bench) (s : Subscription) (chunk : Bytes) (index : Nat) :
    ((b.hand s chunk).2.buffer index).discarded = (b.buffer index).discarded := by
  unfold Bench.hand
  cases s.sink with
  | buffer place =>
    simp only [Bench.buffer, List.getElem?_modify]
    cases b.buffers[index]? with
    | none => simp
    | some buffer =>
      by_cases own : place = index
      · simp [own, Buffer.append]
      · simp [own]
  | listener place =>
    dsimp only
    cases b.listeners[place]? with
    | none => rfl
    | some listener =>
      dsimp only
      cases listener.reactions with
      | nil => rfl
      | cons reaction rest => rfl

theorem Turn.discarded {m m' : Moment} (turn : Turn m m') (index : Nat) :
    (m'.bench.buffer index).discarded = (m.bench.buffer index).discarded := by
  have same {b b' : Bench} (buffers : b'.buffers = b.buffers) :
      (b'.buffer index).discarded = (b.buffer index).discarded := by
    rw [Bench.buffer, Bench.buffer, buffers]
  cases turn with
  | beginRound alive going => rfl
  | fail fetched =>
    obtain ⟨-, -, -, -, -, -, buffers⟩ := Bench.fetch_fields fetched
    exact same buffers
  | pass fetched =>
    obtain ⟨-, -, -, -, -, -, buffers⟩ := Bench.fetch_fields fetched
    exact same buffers
  | hand fetched =>
    obtain ⟨-, -, -, -, -, -, buffers⟩ := Bench.fetch_fields fetched
    exact (discarded_hand _ _ _ index).trans (same buffers)
  | @unsubscribe b rest key =>
    refine same ?_
    dsimp only
    unfold Bench.unsubscribe
    cases b.handles.get? key with
    | none => rfl
    | some id => rfl
  | feed endpoint chunks => rfl
  | @stop b rest =>
    refine same ?_
    dsimp only
    unfold Bench.stopFromThread Bench.requestStop
    cases b.scheduler.thread with
    | none => rfl
    | some t =>
      dsimp only
      split
      · rfl
      · rfl
  | complain n => rfl
  | finish alive asked => rfl

/-- A subscription of a buffer is served in one turn. -/
theorem turn_serve (b : Bench) (sink : s.sink = .buffer place) (rest : List Subscription) :
    Turn ⟨b, s :: rest⟩ ⟨(b.serve s).2, rest⟩ := by
  unfold Bench.serve
  rcases fetched : b.fetch s with ⟨e | _ | ⟨c, cs⟩, later⟩
  · exact .fail fetched
  · exact .pass fetched
  · have handed : later.deliver s (c :: cs) = (later.hand s (c :: cs)).2 := by
      unfold Bench.deliver Bench.hand
      rw [sink]
    dsimp only
    rw [handed]
    exact .hand fetched

theorem device_serve (b : Bench) (sink : s.sink = .buffer place) (endpoint : String) :
    (b.serve s).2.device endpoint = (s.link.read b.toRack).2.device endpoint := by
  rcases (turn_serve b sink []).spec.2 with ⟨s, served, serves⟩ | ⟨-, same | ⟨none, -⟩⟩
  · obtain ⟨rfl, -⟩ := List.cons.inj served
    exact Rack.device_congr serves.devices endpoint
  · cases same
  · cases none

/-- Serving a subscription of a buffer drops it if its link cannot be read, and leaves the scheduler
as it is otherwise. -/
theorem scheduler_serve (b : Bench) (sink : s.sink = .buffer place) :
    (∃ bytes, (s.link.read b.toRack).1 = .ok bytes) ∧ (b.serve s).2.scheduler = b.scheduler
      ∨ (∃ e, (s.link.read b.toRack).1 = .error e)
        ∧ (b.serve s).2.scheduler = b.scheduler.remove s.id := by
  unfold Bench.serve
  rcases fetched : b.fetch s with ⟨e | _ | ⟨c, cs⟩, later⟩ <;>
    obtain ⟨outcome, -, scheduler, -⟩ := Bench.fetch_fields fetched
  · refine Or.inr ⟨⟨e, outcome⟩, ?_⟩
    rw [← scheduler]
    rfl
  · exact Or.inl ⟨⟨[], outcome⟩, scheduler⟩
  · refine Or.inl ⟨⟨c :: cs, outcome⟩, ?_⟩
    dsimp only
    unfold Bench.deliver Bench.hand
    rw [sink]
    exact scheduler

end Moment

namespace Scene

variable {c : Channel} {m m' first : Scene} {texts : List String} {g : Registry}

/-- A channel is open on an echoing device that no other open channel uses. -/
structure Echoes (m : Scene) (c : Channel) : Prop where
  opened : c ∈ m.registry.opened
  sole : c.Sole m.registry.opened
  echo : (m.deviceOf c).echo = true

/-- Nothing has arrived from the echoing device yet, and nothing waits there. -/
structure Quiet (m : Scene) (c : Channel) : Prop extends Echoes m c where
  data : (m.bufferOf c).data = []
  queue : (m.deviceOf c).queue.flatten = []

/-- The thread polls a channel whose device raises no fault. -/
structure Polled (m : Scene) (c : Channel) : Prop where
  alive : m.registry.bench.scheduler.thread = some .alive
  going : m.registry.bench.scheduler.stopRequested = false
  live : c.subscription ∈ m.registry.bench.scheduler.subscriptions
  readable : (m.deviceOf c).fault .read = none

/-- Texts are written to a channel. In between the thread may take any turn, and anyone may do
anything by which the device still echoes for this channel alone, sends nothing of its own and
nothing is discarded from the channel's buffer. -/
inductive Talk (c : Channel) (first : Scene) : List String → Scene → Prop
  | start : Talk c first [] first
  | write {texts : List String} {g : Registry} {count : Int} (s : String)
      (talk : Talk c first texts ⟨g, []⟩) (ok : (g.write c.name (.text s)).1 = .ok count) :
      Talk c first (texts ++ [s]) ⟨(g.write c.name (.text s)).2, []⟩
  | meanwhile {texts : List String} {m m' : Scene} (talk : Talk c first texts m) (next : Next m m')
      (echoes : m'.Echoes c) (sent : (m'.deviceOf c).sent = (m.deviceOf c).sent)
      (discarded : (m'.bufferOf c).discarded = (m.bufferOf c).discarded) : Talk c first texts m'

/-! ### What is heard -/

theorem echoes_of_alike (opened : m'.registry.opened = m.registry.opened)
    (alike : m.registry.bench.toRack.Alike m'.registry.bench.toRack) (echoes : m.Echoes c) :
    m'.Echoes c := by
  obtain ⟨echo, -⟩ := (alike c.link.endpoint).fields
  exact ⟨opened ▸ echoes.opened, opened ▸ echoes.sole, echo.trans echoes.echo⟩

/-- What is written to an echoing device waits there, and nothing else changes for the channel. -/
theorem write_spec {s : String} {count : Int} (ok : (g.write c.name (.text s)).1 = .ok count)
    (coherent : Coherent ⟨g, []⟩) (echoes : Echoes ⟨g, []⟩ c) :
    let g' := (g.write c.name (.text s)).2
    g'.opened = g.opened ∧ g.bench.toRack.Alike g'.bench.toRack ∧ g'.bench.buffers = g.bench.buffers
      ∧ (g'.bench.device c.link.endpoint).queue
        = (g.bench.device c.link.endpoint).queue ++ [(Data.text s).outbound] := by
  obtain ⟨alike, opened⟩ := g.alike_write c.name (.text s)
  have found : g.find? c.name = some c := Registry.find?_name coherent.names echoes.opened
  have echo : (g.bench.device c.link.endpoint).echo = true := echoes.echo
  refine ⟨opened, alike, ?_⟩
  unfold Registry.write Registry.active at ok ⊢
  rw [found] at ok ⊢
  refine ⟨rfl, ?_⟩
  have recorded := Link.write_of_ok ok
  dsimp only [Registry.onBench]
  rw [recorded, Rack.device_alter, if_pos rfl, Device.record]
  dsimp only
  rw [if_pos echo]
  rfl

/-- What the channel has received since and what waits at its device are what was written. -/
theorem Talk.heard (talk : Talk c first texts m) (reached : Reached first) (quiet : first.Quiet c) :
    Reached m ∧ m.Echoes c ∧ (m.bufferOf c).data ++ (m.deviceOf c).queue.flatten
      = texts.flatMap fun s => (Data.text s).outbound := by
  induction talk with
  | start =>
    refine ⟨reached, quiet.toEchoes, ?_⟩
    rw [quiet.data, quiet.queue]
    rfl
  | @write texts g count s talk ok ih =>
    obtain ⟨reached, echoes, heard⟩ := ih
    obtain ⟨opened, alike, buffers, queue⟩ := write_spec ok reached.coherent echoes
    refine ⟨reached.course (.single (.write _ _)), echoes_of_alike opened alike echoes, ?_⟩
    rw [bufferOf, Bench.buffer, buffers, ← Bench.buffer, deviceOf, queue, List.flatten_append,
      ← List.append_assoc, heard, List.flatMap_append]
    simp
  | meanwhile talk next echoes' sent discarded ih =>
    obtain ⟨reached, echoes, heard⟩ := ih
    have coherent := reached.coherent
    have apart (d) (there : d ∈ _) (other : d ≠ c) : d.buffer ≠ c.buffer := fun same =>
      other (List.inj_on_of_nodup_map coherent.places there echoes.opened same)
    obtain ⟨chunks, sent', level⟩ :=
      next.level coherent (coherent.wired c echoes.opened).place apart echoes.sole
    -- The device sends nothing, so bytes only move from its queue to the buffer.
    obtain rfl : chunks = [] := by simpa [sent] using sent'
    refine ⟨reached.course (.single next), echoes', ?_⟩
    rw [Buffer.received, Buffer.received, discarded, List.flatten_nil, List.append_nil,
      List.append_assoc, List.append_assoc] at level
    rw [List.append_cancel_left level, heard]

/-! ### The queue runs empty -/

theorem Talk.turn {awaiting : List Subscription} {later : Moment}
    (talk : Talk c first texts ⟨g, awaiting⟩) (echoes : Echoes ⟨g, awaiting⟩ c)
    (turn : Turn ⟨g.bench, awaiting⟩ later)
    (sent : (later.bench.device c.link.endpoint).sent = (g.bench.device c.link.endpoint).sent) :
    Talk c first texts ⟨{ g with bench := later.bench }, later.awaiting⟩ :=
  have echoes' : Echoes ⟨{ g with bench := later.bench }, later.awaiting⟩ c :=
    echoes_of_alike (m := ⟨g, awaiting⟩) rfl turn.alike echoes
  .meanwhile talk (.tick (.stir (.turn turn))) echoes' sent (turn.discarded c.buffer)

section Thread

variable (reached : Reached first) (quiet : first.Quiet c)
include reached quiet

/-- Serving one subscription goes on with the talk and drains the queue if it is the channel's. -/
theorem Talk.serve {s : Subscription} {rest : List Subscription}
    (talk : Talk c first texts ⟨g, s :: rest⟩) (polled : Polled ⟨g, s :: rest⟩ c) :
    let m : Scene := ⟨g.onBench fun b => (b.serve s).2, rest⟩
    Talk c first texts m ∧ m.Polled c
      ∧ (m.deviceOf c).queue <:+ (g.bench.device c.link.endpoint).queue
      ∧ (s = c.subscription →
        Drains (g.bench.device c.link.endpoint).queue (m.deviceOf c).queue) := by
  intro m
  obtain ⟨before, echoes, -⟩ := talk.heard reached quiet
  have coherent := before.coherent
  obtain ⟨d, there, rfl⟩ := coherent.awaiting s List.mem_cons_self
  have wired := coherent.wired d there
  have turn := Moment.turn_serve g.bench wired.sink rest
  have device := Moment.device_serve g.bench wired.sink c.link.endpoint
  obtain ⟨taken, takes, -⟩ := d.subscription.link.takes_read g.bench.toRack
  have sent : (m.deviceOf c).sent = (g.bench.device c.link.endpoint).sent := by
    rw [deviceOf, ← (takes c.link.endpoint).1, ← device]
    rfl
  have readable : (m.deviceOf c).fault .read = none := by
    obtain ⟨-, faults, -⟩ := (turn.alike c.link.endpoint).fields
    exact (congrFun faults .read).trans polled.readable
  have own : (∃ bytes, (c.link.read g.bench.toRack).1 = .ok bytes) ∧ Drains _ _ :=
    Link.drains_read (before.balanced.held c echoes.opened) polled.readable
  have linked : c.subscription.link = c.link := (coherent.wired c echoes.opened).link
  refine ⟨talk.turn echoes turn sent, ?_, ?_, fun same => ?_⟩
  · -- A subscription that is dropped is not the channel's, for the channel's link can be read.
    rcases Moment.scheduler_serve g.bench wired.sink with ⟨-, same⟩ | ⟨⟨e, failed⟩, removed⟩
    · exact ⟨same ▸ polled.alive, same ▸ polled.going, same ▸ polled.live, readable⟩
    · have other : c.subscription.id ≠ d.subscription.id := by
        intro same
        obtain rfl : c = d := List.inj_on_of_nodup_map coherent.ids echoes.opened there same
        obtain ⟨⟨bytes, ok⟩, -⟩ := own
        rw [linked, ok] at failed
        cases failed
      refine ⟨removed ▸ polled.alive, removed ▸ polled.going, ?_, readable⟩
      change c.subscription ∈ (g.bench.serve d.subscription).2.scheduler.subscriptions
      rw [removed]
      exact List.mem_filter.mpr ⟨polled.live, bne_iff_ne.mpr other⟩
  · rw [deviceOf, show m.registry.bench.device c.link.endpoint = _ from device]
    exact d.subscription.link.queue_read_isSuffix g.bench.toRack c.link.endpoint
  · rw [deviceOf, show m.registry.bench.device c.link.endpoint = _ from device, same, linked]
    exact own.2

/-- Serving subscriptions goes on with the talk and drains the queue if the channel's is one of
them. -/
theorem Talk.serveAll {subscriptions : List Subscription}
    (talk : Talk c first texts ⟨g, subscriptions⟩) (polled : Polled ⟨g, subscriptions⟩ c) :
    let m : Scene := ⟨g.onBench fun b => (Bench.serveAll subscriptions b).2, []⟩
    Talk c first texts m ∧ m.Polled c
      ∧ (m.deviceOf c).queue <:+ (g.bench.device c.link.endpoint).queue
      ∧ (c.subscription ∈ subscriptions →
        Drains (g.bench.device c.link.endpoint).queue (m.deviceOf c).queue) := by
  induction subscriptions generalizing g with
  | nil => exact ⟨talk, polled, List.suffix_refl _, fun none => nomatch none⟩
  | cons s rest ih =>
    obtain ⟨talk', polled', shorter, drains⟩ := talk.serve reached quiet polled
    obtain ⟨talk'', polled'', shorter', drains'⟩ := ih talk' polled'
    refine ⟨talk'', polled'', shorter'.trans shorter, fun there => ?_⟩
    rcases List.mem_cons.mp there with own | later
    · exact (drains own.symm).onward shorter'
    · exact (drains' later).after shorter

theorem Talk.round (talk : Talk c first texts ⟨g, []⟩) (polled : Polled ⟨g, []⟩ c) :
    let m : Scene := ⟨g.onBench fun b => b.round.2, []⟩
    Talk c first texts m ∧ m.Polled c
      ∧ (m.deviceOf c).queue <:+ (g.bench.device c.link.endpoint).queue
      ∧ Drains (g.bench.device c.link.endpoint).queue (m.deviceOf c).queue := by
  obtain ⟨-, echoes, -⟩ := talk.heard reached quiet
  have begun := talk.turn echoes (.beginRound polled.alive polled.going) rfl
  obtain ⟨talk', polled', shorter, drains⟩ := begun.serveAll reached quiet
    ⟨polled.alive, polled.going, polled.live, polled.readable⟩
  exact ⟨talk', polled', shorter, drains polled.live⟩

/-- Running the thread until it is idle goes on with the talk and drains the queue. -/
theorem Talk.settle (talk : Talk c first texts ⟨g, []⟩) (polled : Polled ⟨g, []⟩ c) :
    let m : Scene := ⟨g.onBench Bench.settle, []⟩
    Talk c first texts m ∧ m.Polled c
      ∧ Drains (g.bench.device c.link.endpoint).queue (m.deviceOf c).queue := by
  obtain ⟨channels, environ, serial, opened, latest, links, made, b⟩ := g
  dsimp only [Registry.onBench]
  fun_induction Bench.settle b with
  | case1 b alive asked => exact absurd (polled.going.symm.trans asked) Bool.false_ne_true
  | case2 b alive going later round ih =>
    have served := talk.round reached quiet polled
    rw [Registry.onBench, round] at served
    obtain ⟨talk', polled', shorter, -⟩ := served
    obtain ⟨talk'', polled'', drains⟩ := ih talk' polled'
    exact ⟨talk'', polled'', drains.after shorter⟩
  | case3 b alive going later round =>
    have served := talk.round reached quiet polled
    rw [Registry.onBench, round] at served
    obtain ⟨talk', polled', -, drains⟩ := served
    exact ⟨talk', polled', drains⟩
  | case4 b idle => exact absurd polled.alive idle

/-- The thread drains the queue in the end. -/
theorem Talk.drained (talk : Talk c first texts ⟨g, []⟩) (polled : Polled ⟨g, []⟩ c) :
    ∃ n, let m : Scene := ⟨(Registry.onBench Bench.settle)^[n] g, []⟩
      Talk c first texts m ∧ (m.deviceOf c).queue.flatten = [] := by
  generalize size : (g.bench.device c.link.endpoint).queue.length = k
  induction k using Nat.strong_induction_on generalizing g with
  | h k ih =>
    obtain ⟨talk', polled', empty | shorter⟩ := talk.settle reached quiet polled
    · exact ⟨1, talk', empty⟩
    · obtain ⟨n, later⟩ := ih _ (size ▸ shorter) talk' polled' rfl
      exact ⟨n + 1, later⟩

end Thread

/-- Texts come back through an echoing device as they were written, in whatever pieces, apart from
the blanks at the end and with a line feed for every carriage return and line feed; and the thread
needs to run only so often for all of them to come back. What is sent for a text has a carriage
return before every line feed, and is sent again as it was once it was read. -/
theorem echo_round_trip :
    (∀ (first m : Scene) (c : Channel) (texts : List String), Reached first → first.Quiet c →
      Talk c first texts m →
      let shown : Data := .text (Text.trimEnd (String.join (texts.map Text.folded)))
      ((m.deviceOf c).queue.flatten = [] → (m.bufferOf c).snapshot = shown)
        ∧ (m.awaiting = [] → m.Polled c →
          ∃ n, let later : Scene := ⟨(Registry.onBench Bench.settle)^[n] m.registry, []⟩
            Talk c first texts later ∧ (later.deviceOf c).queue.flatten = []
              ∧ (later.bufferOf c).snapshot = shown))
      ∧ ∀ s : String,
        (∀ (chunks : List Bytes) (b : Buffer), chunks.flatten = (Data.text s).outbound →
          b.data = [] →
          (chunks.foldl Buffer.append b).snapshot = .text (Text.trimEnd (Text.folded s)))
        ∧ (∀ before after, (Data.text s).outbound = before ++ 10 :: after → [13] <:+ before)
        ∧ (Data.text (Text.Utf8.decode (Data.text s).outbound)).outbound
          = (Data.text s).outbound := by
  have heard {first m : Scene} {c : Channel} {texts : List String} (reached : Reached first)
      (quiet : first.Quiet c) (talk : Talk c first texts m)
      (empty : (m.deviceOf c).queue.flatten = []) :
      (m.bufferOf c).snapshot = .text (Text.trimEnd (String.join (texts.map Text.folded))) := by
    obtain ⟨-, -, heard⟩ := talk.heard reached quiet
    rw [empty, List.append_nil] at heard
    rw [Buffer.snapshot, heard, Data.received_outbound]
  refine ⟨fun first m c texts reached quiet talk => ?_, fun s => ?_⟩
  · refine ⟨heard reached quiet talk, fun idle polled => ?_⟩
    obtain ⟨g, awaiting⟩ := m
    obtain rfl : awaiting = [] := idle
    obtain ⟨n, talk', empty⟩ := talk.drained reached quiet polled
    exact ⟨n, talk', empty, heard reached quiet talk' empty⟩
  · refine ⟨fun chunks b cut unheard => ?_, fun before after cut => ?_, Data.outbound_decode s⟩
    · have received := Data.received_outbound [s]
      rw [Buffer.snapshot, Buffer.data_foldl_append, unheard, List.nil_append, cut]
      simpa [String.join] using received
    · rw [Data.outbound_text] at cut
      exact Text.return_before_feed cut

/-- A channel on an echoing device. -/
def echoing : Registry :=
  Registry.performAll [.start, .openChannel "Serial" 9600 8, .device (.echo "/dev/a")]
    (.make none (.ofList [("HIL_SERIAL_DEV", "/dev/a")]) false (.make [] .usual))

/-- A line end is written in two halves with a run of the thread in between; and a character is cut
in two on the way. -/
theorem echo_round_trip_halves :
    let g := ((echoing.write "Serial" (.text "one\r")).2.onBench Bench.settle).write "Serial"
      (.text "\ntwo \n") |>.2
    Reached ⟨echoing, []⟩ ∧ Quiet ⟨echoing, []⟩ serial
      ∧ Talk serial ⟨echoing, []⟩ ["one\r", "\ntwo \n"] ⟨g, []⟩
      ∧ (∃ n, (((Registry.onBench Bench.settle)^[n] g).bench.buffer 0).snapshot
        = .text "one\r\ntwo")
      ∧ (Data.text "é\n").outbound = [0xC3, 0xA9, 13, 10]
      ∧ ([[0xC3], [0xA9, 13], [10]].foldl Buffer.append (.empty "Serial")).snapshot = .text "é"
      ∧ [13] <:+ ([0xC3, 0xA9, 13] : Bytes) := by
  intro g
  have reached : Reached ⟨echoing, []⟩ := (reached_make ..).performAll _
  have alone : echoing.opened = [serial] := by decide +kernel
  have sole : serial.Sole echoing.opened := by
    intro d there other
    rw [alone] at there
    exact absurd (List.mem_singleton.mp there) other
  have quiet : Quiet ⟨echoing, []⟩ serial :=
    ⟨⟨alone ▸ List.mem_singleton_self _, sole, by decide +kernel⟩, by decide +kernel,
      by decide +kernel⟩
  have half : (echoing.write "Serial" (.text "one\r")).1 = .ok 4 := by decide +kernel
  have polled {g : Registry} (scheduler : g.bench.scheduler = echoing.bench.scheduler)
      (readable : (g.bench.device "/dev/a").fault .read = none) : Polled ⟨g, []⟩ serial := by
    refine ⟨?_, ?_, ?_, readable⟩
    · rw [scheduler]
      decide +kernel
    · rw [scheduler]
      decide +kernel
    · rw [scheduler]
      decide +kernel
  have first := Talk.write "one\r" (@Talk.start serial ⟨echoing, []⟩) half
  obtain ⟨ran, -⟩ := first.settle reached quiet (polled (by decide +kernel) (by decide +kernel))
  have other : (((echoing.write "Serial" (.text "one\r")).2.onBench Bench.settle).write "Serial"
      (.text "\ntwo \n")).1 = .ok 8 := by
    decide +kernel
  have talk : Talk serial ⟨echoing, []⟩ ["one\r", "\ntwo \n"] ⟨g, []⟩ := ran.write "\ntwo \n" other
  obtain ⟨back, codec⟩ := echo_round_trip
  obtain ⟨pieces, feeds, -⟩ := codec "é\n"
  have sent : (Data.text "é\n").outbound = [0xC3, 0xA9, 13, 10] := by decide +kernel
  obtain ⟨-, runs⟩ := back _ _ _ _ reached quiet talk
  obtain ⟨n, -, -, shown⟩ := runs rfl (polled (by decide +kernel) (by decide +kernel))
  have text : Text.trimEnd (String.join (["one\r", "\ntwo \n"].map Text.folded))
      = "one\r\ntwo" := by
    decide +kernel
  have letter : Text.trimEnd (Text.folded "é\n") = "é" := by decide +kernel
  refine ⟨reached, quiet, talk, ⟨n, text ▸ shown⟩, sent, ?_, feeds [0xC3, 0xA9, 13] [] sent⟩
  exact letter ▸ pieces [[0xC3], [0xA9, 13], [10]] (.empty "Serial") sent.symm rfl

/-- Two channels on one echoing device. -/
def shared : Registry :=
  Registry.performAll
    [.start, .openChannel "Serial" 9600 8, .openChannel "Serial1" 9600 8, .device (.echo "/dev/a")]
    (.make none (.ofList [("HIL_SERIAL_DEV", "/dev/a"), ("HIL_SERIAL1_DEV", "/dev/a")]) false
      (.make [] .usual))

/-- Where two open channels share an echoing device, what is written to one of them may come back to
the other. -/
theorem not_echo_of_shared :
    let g := (shared.write "Serial1" (.text "hi")).2.onBench Bench.settle
    Reached ⟨shared, []⟩ ∧ ∃ c ∈ shared.opened, c.name = "Serial1"
      ∧ (shared.bench.device c.link.endpoint).echo = true
      ∧ (∀ stage, (shared.bench.device c.link.endpoint).fault stage = none)
      ∧ (shared.bench.buffer c.buffer).data = [] ∧ (shared.bench.device c.link.endpoint).queue = []
      ∧ (shared.write "Serial1" (.text "hi")).1 = .ok 2
      ∧ Polled ⟨shared, []⟩ c ∧ (g.bench.device c.link.endpoint).queue = []
      ∧ (g.bench.buffer c.buffer).snapshot
        ≠ .text (Text.trimEnd (String.join (["hi"].map Text.folded))) := by
  intro g
  have second : shared.opened[1]? = some ⟨"Serial1", .plain "/dev/a" (some 9600) (some 8), 1,
      ⟨2, "Serial1", .plain "/dev/a" (some 9600) (some 8), .buffer 1⟩⟩ := by
    decide +kernel
  refine ⟨(reached_make ..).performAll _, _, List.mem_of_getElem? second, rfl, by decide +kernel,
    fun stage => ?_, by decide +kernel, by decide +kernel, by decide +kernel, ?_, by decide +kernel,
    by decide +kernel⟩
  · cases stage <;> decide +kernel
  · exact ⟨by decide +kernel, by decide +kernel, by decide +kernel, by decide +kernel⟩

end Scene

end AcceptanceBench
