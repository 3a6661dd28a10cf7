import AcceptanceBench.Buffer
import AcceptanceBench.Proofs.LineEnd
import AcceptanceBench.Proofs.Utf8Scan

/-!
What is sent is read back as it was. A text goes out with every line end as carriage return and line
feed; however its bytes are cut on the way, a buffer that receives them shows the text again, with
line feeds for its line ends and without the blanks at its end.
-/

namespace AcceptanceBench

namespace Text.Utf8

/-- A byte below 128 spells a character alone. -/
theorem eq_ofNat_of_mem_encodeChar {c : Char} {b : UInt8} (member : b ∈ String.utf8EncodeChar c)
    (small : b.toNat < 0x80) : c = Char.ofNat b.toNat := by
  obtain ⟨first, tail, spelt, -, inner⟩ := encodeChar_bytes c
  obtain ⟨lead, others, same, read⟩ := head_encodeChar c []
  obtain ⟨rfl, rfl⟩ := List.cons.inj (spelt.symm.trans same)
  rw [spelt] at member
  rcases List.mem_cons.mp member with rfl | later
  · rw [head_one small] at read
    exact (Head.whole.inj read).1.symm
  · exact absurd (inner b later).1 (Nat.not_le.mpr small)

end Text.Utf8

/-- A line feed in the bytes of expanded text comes right after a carriage return. -/
theorem Text.return_before_feed {cs : List Char} {before after : Bytes}
    (cut : Text.Utf8.spell (Text.expandLines cs) = before ++ 10 :: after) : [13] <:+ before := by
  induction cs generalizing before with
  | nil => simp [Text.expandLines, Text.Utf8.spell] at cut
  | cons c cs ih =>
    rw [Text.expandLines] at cut
    by_cases feed : c = '\n'
    · rw [if_pos feed] at cut
      change 13 :: 10 :: Text.Utf8.spell (Text.expandLines cs) = before ++ 10 :: after at cut
      -- The line feed is not the first byte, it is that of this line end, or it comes later.
      rcases before with _ | ⟨b₁, _ | ⟨b₂, earlier⟩⟩
      · cases cut
      · obtain ⟨rfl, -⟩ := List.cons.inj cut
        exact List.suffix_refl _
      · obtain ⟨-, cut⟩ := List.cons.inj cut
        obtain ⟨-, cut⟩ := List.cons.inj cut
        exact (ih cut).trans ⟨[b₁, b₂], rfl⟩
    · rw [if_neg feed, Text.Utf8.spell_cons] at cut
      rcases List.append_eq_append_iff.mp cut with ⟨earlier, rfl, later⟩ | ⟨rest, whole, later⟩
      · exact (ih later).trans (List.suffix_append ..)
      · rcases rest with _ | ⟨b, rest⟩
        · exact absurd (@ih [] later.symm) (by simp)
        · obtain ⟨rfl, -⟩ := List.cons.inj later
          have member : 10 ∈ String.utf8EncodeChar c := by
            rw [whole]
            exact List.mem_append_right _ List.mem_cons_self
          exact absurd (Text.Utf8.eq_ofNat_of_mem_encodeChar member (by decide)) feed

/-- The text with a line feed for every carriage return and line feed. -/
def Text.folded (s : String) : String :=
  String.ofList (Text.foldLines s.toList)

namespace Data

theorem outbound_text (s : String) :
    (text s).outbound = Text.Utf8.spell (Text.expandLines (Text.folded s).toList) := by
  rw [outbound, Text.Utf8.encode_eq_spell, Text.folded, String.toList_ofList, String.toList_ofList]

/-- The bytes of texts that are sent one after another are those of one text. -/
theorem outbound_texts (texts : List String) :
    (texts.flatMap fun s => (text s).outbound)
      = Text.Utf8.spell (Text.expandLines (String.join (texts.map Text.folded)).toList) := by
  rw [String.toList_join]
  induction texts with
  | nil => rfl
  | cons s rest ih =>
    rw [List.map_cons, List.flatMap_cons, List.flatMap_cons, ih, outbound_text,
      Text.expandLines_append, Text.Utf8.spell_append]

/-- Texts that were sent are received as one text without the blanks at its end. -/
theorem received_outbound (texts : List String) :
    received (texts.flatMap fun s => (text s).outbound)
      = text (Text.trimEnd (String.join (texts.map Text.folded))) := by
  rw [outbound_texts, received, Text.Utf8.scan_spell]
  simp [tidy, Text.trimEnd, Text.foldLines_expandLines]

theorem outbound_decode (s : String) :
    (text (Text.Utf8.decode (text s).outbound)).outbound = (text s).outbound := by
  rw [outbound_text s, outbound_text, Text.folded, Text.Utf8.decode, Text.Utf8.lossy_spell,
    String.toList_ofList, String.toList_ofList, Text.foldLines_expandLines]

end Data

theorem Buffer.data_foldl_append (chunks : List Bytes) (b : Buffer) :
    (chunks.foldl append b).data = b.data ++ chunks.flatten := by
  induction chunks generalizing b with
  | nil => simp
  | cons chunk rest ih => simp [ih, append]

end AcceptanceBench
