import AcceptanceBench.Proofs.Forms
import AcceptanceBench.Proofs.Stream
import AcceptanceBench.Proofs.WaitCourse
import AcceptanceBench.Proofs.WellFormed

/-!
Channels of devices that send text. However the stream is cut into chunks, a channel shows a text as
long as what was discarded from its buffer ends where a character does. A reset between two parts of
a character leaves the rest of the character behind, and from then on the channel shows bytes.
-/

namespace AcceptanceBench

namespace Data

open Text.Utf8

/-- A byte from inside a character begins no text. -/
theorem received_of_inner {b : UInt8} (inner : Inner b) (rest : Bytes) :
    received (b :: rest) = .bytes (b :: rest) := by
  obtain ⟨least, greatest⟩ := inner
  apply received_of_unread
  have broken : head b rest = .broken 0 := head_broken (Or.inl (by omega)) rest
  have other : isCutSurrogate (b :: rest) = false := by
    rcases rest with _ | ⟨d, _ | ⟨e, more⟩⟩
    · rfl
    · have notLead : (b == 0xED) = false := by
        rw [beq_eq_false_iff_ne]
        rintro rfl
        exact absurd greatest (by decide)
      simp [isCutSurrogate, notLead]
    · rfl
  rw [scan, broken]
  dsimp only
  rw [other]
  rfl

/-- Bytes from the middle of a well-formed stream are read as text if and only if they begin where a
character does. -/
theorem isText_received_iff {before data after : Bytes}
    (formed : WellFormed (before ++ data ++ after)) :
    (received data).isText = true ↔ data = [] ∨ WellFormed before := by
  obtain ⟨cs, spelt⟩ := formed
  rw [List.append_assoc] at spelt
  constructor
  · intro text
    cases data with
    | nil => exact Or.inl rfl
    | cons b rest =>
      by_cases inner : Inner b
      · rw [received_of_inner inner] at text
        cases text
      · obtain ⟨front, back, -, same, -⟩ := exists_border inner spelt
        exact Or.inr ⟨front, same.symm⟩
  · rintro (rfl | ⟨front, rfl⟩)
    · have read : scan [] = some [] := by rw [scan]
      rw [received_of_read read]
      rfl
    · obtain ⟨back, rfl⟩ := spell_isPrefix_iff.mp ⟨data ++ after, spelt.symm⟩
      rw [spell_append] at spelt
      obtain ⟨ds, read⟩ := exists_scan_of_wellFormed ⟨back, List.append_cancel_left spelt⟩
      rw [received_of_read read]
      rfl

end Data

namespace Scene

open Data (isText_received_iff)
open Text.Utf8 (WellFormed)

variable {g g₀ g₁ : Registry} {c : Channel} {m m' : Scene}

/-- A channel shows a text exactly if it holds nothing, or what resets have discarded from its
buffer ends where a character does. -/
def TextIffWhole (m : Scene) (c : Channel) : Prop :=
  (m.bufferOf c).snapshot.isText = true
    ↔ (m.bufferOf c).data = [] ∨ WellFormed (m.bufferOf c).discarded

/-- A channel has its place and its id to itself, and its buffer has received what was delivered to
the channel. -/
structure Receives (c : Channel) (m : Scene) : Prop where
  place : c.buffer < m.registry.bench.buffers.length
  id : c.subscription.id < m.registry.bench.scheduler.nextId
  apart : ∀ d ∈ m.registry.opened, d ≠ c →
    d.buffer ≠ c.buffer ∧ d.subscription.id ≠ c.subscription.id
  delivered : (m.bufferOf c).received = m.registry.bench.bytesTo c.subscription

theorem receives_of_opens {name : String} {baud bits : Whole} (reached : Reached ⟨g₀, []⟩)
    (opens : g₀.openChannel name baud bits = (.ok c, g₁)) : Receives c ⟨g₁, []⟩ := by
  rcases g₀.openChannel_spec name baud bits with ⟨d, opened, enrols⟩ | ⟨⟨e, failed⟩, -⟩
  · rw [opens] at opened enrols
    cases opened
    have begun := follows_of_enrols reached.coherent enrols
    exact ⟨begun.place, begun.id, begun.apart, begun.delivered⟩
  · rw [opens] at failed
    cases failed

theorem Next.receives (next : Next m m') (coherent : m.Coherent) (receives : Receives c m) :
    Receives c m' := by
  obtain ⟨place, id, apart⟩ := next.apart coherent receives.place receives.id receives.apart
  exact ⟨place, id, apart,
    next.delivered coherent receives.place receives.apart receives.delivered⟩

theorem Receives.course (receives : Receives c m) (reached : Reached m) (course : Course m m') :
    Receives c m' := by
  induction course with
  | refl => exact receives
  | tail before next ih => exact next.receives (reached.course before).coherent ih

/-- What was delivered stays delivered. -/
theorem Reached.bytesTo_isPrefix (reached : Reached m) (course : Course m m') (s : Subscription) :
    m.registry.bench.bytesTo s <+: m'.registry.bench.bytesTo s := by
  induction course with
  | refl => exact List.prefix_refl _
  | tail before next ih =>
    apply ih.trans
    rcases next.reads (reached.course before).coherent with ⟨d, -, serves⟩ | spares
    · rw [serves.bytesTo]
      exact List.prefix_append ..
    · rw [Bench.bytesTo, Bench.bytesTo, spares.deliveries]

/-- At any moment what is left of a well-formed stream after some resets is a text exactly if the
resets have left whole characters. -/
theorem Receives.textIffWhole (receives : Receives c m) {stream : Bytes}
    (formed : WellFormed stream) (arrives : m.registry.bench.bytesTo c.subscription <+: stream) :
    m.TextIffWhole c := by
  obtain ⟨after, rfl⟩ := arrives
  rw [← receives.delivered, Buffer.received] at formed
  exact isText_received_iff formed

/-- A wait on a channel calls its predicate with what the channel's buffer shows in scenes of the
wait. -/
theorem seen_step [Clock] {rule : Rule} {asked : ChannelWait}
    {events : List (Scheduled RegistryAct)} (active : g.active asked.name = .ok c) :
    let answer := g.step (.wait rule (some asked) events)
    ∀ waiting ∈ answer.waiting, ∀ data ∈ waiting.seen,
      ∃ m, Course ⟨g, []⟩ m ∧ Course m ⟨answer.after, []⟩ ∧ (m.bufferOf c).snapshot = data := by
  unfold Registry.step Registry.waitFor waitOnChannel
  dsimp only [id]
  cases Predicate.make rule with
  | error e =>
    intro waiting its data there
    cases its
    cases there
  | ok predicate =>
    dsimp only
    rw [active]
    dsimp only
    intro waiting its data there
    cases its
    generalize around_eq : Surroundings.ofBench _ _ _ c.buffer _ = around at there ⊢
    -- Each change around the wait is a course of scenes between two rounds.
    have between {g g' : Registry} (course : around.Course g g') :
        Course ⟨g, []⟩ ⟨g', []⟩ := by
      induction course with
      | refl => exact .refl
      | tail before next ih =>
        apply ih.trans
        subst around_eq
        cases next with
        | settle => exact course_ticks (Moment.turns_settle _).ticks
        | happen act => exact course_perform _ act
    have since := Wait.since_run ⟨(g.bench.buffer c.buffer).name, asked.timeout, predicate⟩ around
      events g
    obtain ⟨g', before, after, same⟩ := since.seen data there
    refine ⟨⟨g', []⟩, between before, (between after).trans ?_, ?_⟩
    · exact course_ticks (Moment.ticks_note_foldl _ _)
    · rw [← same, ← around_eq]
      rfl

/-- A channel that is delivered a well-formed stream, in whatever chunks, shows a text at every
moment at which it holds nothing or what resets have discarded ends where a character does, and
bytes at every other moment. What a predicate is called with is what the channel shows at some
moment of the wait. -/
theorem openChannel_text_iff [Clock] {name : String} {baud bits : Whole} {stream : Bytes}
    (reached : Reached ⟨g₀, []⟩) (opens : g₀.openChannel name baud bits = (.ok c, g₁))
    (formed : WellFormed stream) :
    (∀ m, Course ⟨g₁, []⟩ m → m.registry.bench.bytesTo c.subscription <+: stream →
        m.TextIffWhole c)
      ∧ ∀ g rule asked events, Course ⟨g₁, []⟩ ⟨g, []⟩ → g.active asked.name = .ok c →
        let answer := g.step (.wait rule (some asked) events)
        answer.after.bench.bytesTo c.subscription <+: stream →
        ∀ waiting ∈ answer.waiting, ∀ data ∈ waiting.seen,
          ∃ m, Course ⟨g, []⟩ m ∧ Course m ⟨answer.after, []⟩ ∧ (m.bufferOf c).snapshot = data
            ∧ m.TextIffWhole c := by
  have opening : Next ⟨g₀, []⟩ ⟨g₁, []⟩ := by
    have next := Next.openChannel name baud bits (g := g₀)
    rwa [opens] at next
  have begun := receives_of_opens reached opens
  have after := reached.course (.single opening)
  constructor
  · intro m course arrives
    exact (begun.course after course).textIffWhole formed arrives
  · intro g rule asked events course active answer arrives waiting its data there
    obtain ⟨m, before, onward, same⟩ := seen_step active waiting its data there
    have course := course.trans before
    have begins := (after.course course).bytesTo_isPrefix onward c.subscription
    exact ⟨m, before, onward, same,
      (begun.course after course).textIffWhole formed (begins.trans arrives)⟩

/-- The bytes of a control character, a euro sign and two letters. -/
def price : Bytes := [1, 0xE2, 0x82, 0xAC, 79, 75]

theorem wellFormed_price : WellFormed price :=
  ⟨['\x01', '€', 'O', 'K'], by decide +kernel⟩

/-- The euro sign arrives in two chunks, and the channel is reset behind it. -/
theorem text_iff_price :
    let g₁ := (waiting.openChannel "Serial" 9600 8).2
    let g := g₁.performAll
      [.device (.feed "/dev/a" [[0xE2], [0x82, 0xAC]]), .device .pump, .resetData "Serial",
        .device (.feed "/dev/a" [[79], [75]]), .device .pump]
    Reached ⟨waiting, []⟩ ∧ waiting.openChannel "Serial" 9600 8 = (.ok serial, g₁)
      ∧ WellFormed price ∧ Course ⟨g₁, []⟩ ⟨g, []⟩
      ∧ g.bench.bytesTo serial.subscription <+: price
      ∧ (g.bench.buffer 0).discarded = [1, 0xE2, 0x82, 0xAC]
      ∧ ((g.bench.buffer 0).snapshot.isText = true
        ↔ (g.bench.buffer 0).data = [] ∨ WellFormed (g.bench.buffer 0).discarded) := by
  intro g₁ g
  have reached : Reached ⟨waiting, []⟩ := ((reached_make ..).perform _).perform _
  have opens : waiting.openChannel "Serial" 9600 8 = (.ok serial, g₁) :=
    Prod.ext (by decide +kernel) rfl
  have course : Course ⟨g₁, []⟩ ⟨g, []⟩ := course_performAll g₁ _
  have arrives : g.bench.bytesTo serial.subscription <+: price := by decide +kernel
  exact ⟨reached, opens, wellFormed_price, course, arrives, by decide +kernel,
    (@openChannel_text_iff _ _ _ .threads _ _ _ _ reached opens wellFormed_price).1 _ course
      arrives⟩

/-- The channel is reset between the two chunks of the euro sign, and shows bytes. -/
theorem not_text_split :
    ¬ ∀ (g₀ g₁ : Registry) (name : String) (baud bits : Whole) (c : Channel) (m : Scene)
      (stream : Bytes), Reached ⟨g₀, []⟩ → g₀.openChannel name baud bits = (.ok c, g₁) →
      Course ⟨g₁, []⟩ m → WellFormed stream →
      m.registry.bench.bytesTo c.subscription <+: stream →
      (m.bufferOf c).snapshot.isText = true := by
  intro always
  let g₁ := (waiting.openChannel "Serial" 9600 8).2
  let g := g₁.performAll
    [.device (.feed "/dev/a" [[0xE2]]), .device .pump, .resetData "Serial",
      .device (.feed "/dev/a" [[0x82, 0xAC, 79, 75]]), .device .pump]
  have reached : Reached ⟨waiting, []⟩ := ((reached_make ..).perform _).perform _
  have opens : waiting.openChannel "Serial" 9600 8 = (.ok serial, g₁) :=
    Prod.ext (by decide +kernel) rfl
  have text := always waiting g₁ "Serial" 9600 8 serial ⟨g, []⟩ price reached opens
    (course_performAll g₁ _) wellFormed_price (by decide +kernel)
  have bytes : (g.bench.buffer serial.buffer).snapshot = .bytes [0x82, 0xAC, 79, 75] := by
    decide +kernel
  rw [bufferOf, bytes] at text
  cases text

end Scene

end AcceptanceBench
