import AcceptanceBench.Proofs.Received
import AcceptanceBench.Step.Buffer

/-!
What a buffer shows only grows. As long as it is not reset, each of its snapshots begins with the
one before; at some point bytes that are no text may have arrived, and from then on all snapshots
are bytes.
-/

namespace AcceptanceBench

namespace Data

theorem text_of_append {a b : Bytes} {t : String} (later : received (a ++ b) = .text t) :
    ∃ s, received a = .text s ∧ s.toList <+: t.toList := by
  cases after : Text.Utf8.scan (a ++ b) with
  | none =>
    rw [received_of_unread after] at later
    cases later
  | some ds =>
    cases before : Text.Utf8.scan a with
    | none =>
      rw [Text.Utf8.scan_append_of_none before b] at after
      cases after
    | some cs =>
      rw [received_of_read after] at later
      cases later
      refine ⟨_, received_of_read before, ?_⟩
      rw [String.toList_ofList, String.toList_ofList]
      exact tidy_isPrefix (Text.Utf8.scan_append_isPrefix before after)

theorem bytes_of_append {a x : Bytes} (unread : received a = .bytes x) (b : Bytes) :
    received (a ++ b) = .bytes (a ++ b) := by
  cases before : Text.Utf8.scan a with
  | none => exact received_of_unread (Text.Utf8.scan_append_of_none before b)
  | some cs =>
    rw [received_of_read before] at unread
    cases unread

/-- Growing bytes are seen as growing texts first and as bytes from some point on. -/
theorem exists_texts {raws : List Bytes} (grow : raws.Pairwise (· <+: ·)) :
    ∃ (texts : List String) (rest : List Bytes),
      raws.map received = texts.map .text ++ rest.map .bytes
        ∧ texts.Pairwise (·.toList <+: ·.toList) ∧ rest.Pairwise (· <+: ·) := by
  induction raws with
  | nil => exact ⟨[], [], rfl, .nil, .nil⟩
  | cons raw raws ih =>
    obtain ⟨begins, onward⟩ := List.pairwise_cons.mp grow
    cases seen : received raw with
    | text s =>
      obtain ⟨texts, rest, split, chain, bytes⟩ := ih onward
      refine ⟨s :: texts, rest, ?_, List.pairwise_cons.mpr ⟨fun t there => ?_, chain⟩, bytes⟩
      · rw [List.map_cons, seen, split]
        rfl
      · have there : text t ∈ raws.map received := by
          rw [split]
          exact List.mem_append_left _ (List.mem_map_of_mem there)
        obtain ⟨later, member, read⟩ := List.mem_map.mp there
        obtain ⟨b, rfl⟩ := begins later member
        obtain ⟨s', same, shorter⟩ := text_of_append read
        rw [seen] at same
        cases same
        exact shorter
    | bytes x =>
      -- The first bytes are no text, so none of the later ones are.
      refine ⟨[], raw :: raws, ?_, .nil, grow⟩
      refine List.map_congr_left fun later member => ?_
      rcases List.mem_cons.mp member with rfl | member
      · have same := bytes_of_append seen []
        rwa [List.append_nil] at same
      · obtain ⟨b, rfl⟩ := begins later member
        exact bytes_of_append seen b

end Data

namespace BufferBench

/-- The buffer before the first of some acts and after each of them. -/
def states (s : BufferBench) (acts : List BufferAct) : List BufferBench :=
  acts.scanl (fun s act => (perform act s).2) s

variable {acts : List BufferAct} {s : BufferBench}

theorem data_perform_isPrefix {act : BufferAct} (kept : act ≠ .reset) (s : BufferBench) :
    s.buffer.data <+: (perform act s).2.buffer.data := by
  cases act with
  | append data => exact List.prefix_append ..
  | reset => exact absurd rfl kept
  | snapshot | notify | refused => exact List.prefix_refl _

theorem begins_states (kept : ∀ act ∈ acts, act ≠ .reset) :
    ∀ t ∈ s.states acts, s.buffer.data <+: t.buffer.data := by
  induction acts generalizing s with
  | nil =>
    intro t there
    rw [List.mem_singleton.mp there]
  | cons act rest ih =>
    obtain ⟨first, others⟩ := List.forall_mem_cons.mp kept
    intro t there
    rw [states, List.scanl_cons] at there
    rcases List.mem_cons.mp there with rfl | there
    · exact List.prefix_refl _
    · exact (data_perform_isPrefix first s).trans (ih others t there)

/-- Without a reset the bytes of a buffer grow. -/
theorem data_states_pairwise (kept : ∀ act ∈ acts, act ≠ .reset) :
    ((s.states acts).map (·.buffer.data)).Pairwise (· <+: ·) := by
  rw [List.pairwise_map]
  induction acts generalizing s with
  | nil => exact List.pairwise_singleton ..
  | cons act rest ih =>
    obtain ⟨first, others⟩ := List.forall_mem_cons.mp kept
    rw [states, List.scanl_cons]
    refine List.pairwise_cons.mpr ⟨fun t there => ?_, ih others⟩
    exact (data_perform_isPrefix first s).trans (begins_states others t there)

/-- What is received only grows. The text that checks see in some bytes begins the text that they
see in more bytes, and bytes that are no text are none with more bytes either. So while a buffer is
not reset, its snapshots are texts each of which begins all later ones, and then perhaps bytes, and
never a text again. -/
theorem snapshots_grow :
    (∀ a b : Bytes,
      (∀ t, Data.received (a ++ b) = .text t →
        ∃ s, Data.received a = .text s ∧ s.toList <+: t.toList)
        ∧ ∀ x, Data.received a = .bytes x → Data.received (a ++ b) = .bytes (a ++ b))
      ∧ ∀ (s : BufferBench) (acts : List BufferAct), (∀ act ∈ acts, act ≠ .reset) →
        ∃ (texts : List String) (rest : List Bytes),
          (s.states acts).map (·.buffer.snapshot) = texts.map .text ++ rest.map .bytes
            ∧ texts.Pairwise (·.toList <+: ·.toList) ∧ rest.Pairwise (· <+: ·) := by
  refine ⟨fun a b => ⟨fun t later => Data.text_of_append later,
    fun x unread => Data.bytes_of_append unread b⟩, fun s acts kept => ?_⟩
  have shown : (s.states acts).map (·.buffer.snapshot)
      = ((s.states acts).map (·.buffer.data)).map Data.received := by
    rw [List.map_map]
    rfl
  rw [shown]
  exact Data.exists_texts (data_states_pairwise kept)

/-- The last character of a text arrives in two parts, then its line end, then a byte that is part
of no character. -/
theorem snapshots_grow_arriving :
    let s : BufferBench := ⟨.empty "Serial", []⟩
    let acts : List BufferAct := [.append (.bytes [53, 32, 0xE2, 0x82]),
      .append (.bytes [0xAC, 13]), .notify, .append (.text "\n!"), .append (.bytes [0xFF]),
      .append (.text "OK")]
    (∀ act ∈ acts, act ≠ .reset)
      ∧ (s.states acts).map (·.buffer.snapshot)
        = [.text "", .text "5", .text "5 €", .text "5 €", .text "5 €\n!",
          .bytes [53, 32, 0xE2, 0x82, 0xAC, 13, 10, 33, 0xFF],
          .bytes [53, 32, 0xE2, 0x82, 0xAC, 13, 10, 33, 0xFF, 79, 75]]
      ∧ ∃ (texts : List String) (rest : List Bytes),
        (s.states acts).map (·.buffer.snapshot) = texts.map .text ++ rest.map .bytes
          ∧ texts.Pairwise (·.toList <+: ·.toList) ∧ rest.Pairwise (· <+: ·) := by
  intro s acts
  have kept : ∀ act ∈ acts, act ≠ .reset := by
    simp [acts]
  exact ⟨kept, by decide +kernel, snapshots_grow.2 s acts kept⟩

end BufferBench

end AcceptanceBench
