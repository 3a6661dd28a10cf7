import AcceptanceBench.Check
import AcceptanceBench.Proofs.LineEnd
import AcceptanceBench.Proofs.Utf8Scan

/-!
Received bytes as checks see them, while more arrive. What stands in received data, at its front or
anywhere, still stands there later on.
-/

namespace AcceptanceBench

namespace Data

/-- What is read of a stream is tidied as a whole, so a longer stream only adds to it. -/
theorem tidy_isPrefix {cs ds : List Char} (begins : cs <+: ds) : tidy cs <+: tidy ds := by
  obtain ⟨later, rfl⟩ := begins
  exact Text.dropTrailing_prefix_dropTrailing (Text.dropTrailing_foldLines_isPrefix cs later)

theorem received_of_read {raw : Bytes} {cs : List Char} (read : Text.Utf8.scan raw = some cs) :
    received raw = .text (String.ofList (tidy cs)) := by
  rw [received, read]

theorem received_of_unread {raw : Bytes} (unread : Text.Utf8.scan raw = none) :
    received raw = .bytes raw := by
  rw [received, unread]

end Data

/-! ### Finding a part -/

/-- Where a part is looked for. -/
inductive Place where
  | front
  | anywhere
  deriving Repr, DecidableEq

namespace Place

variable {α β : Type}

/-- The operator that looks for expected data there. -/
def operator : Place → Operator
  | .front => .startWith
  | .anywhere => .contain

/-- A part stands in a whole. -/
def Finds (place : Place) (part whole : List α) : Prop :=
  match place with
  | .front => part <+: whole
  | .anywhere => part <:+: whole

variable {place : Place} {part whole : List α}

theorem Finds.grow {longer : List α} (finds : place.Finds part whole) (begins : whole <+: longer) :
    place.Finds part longer := by
  cases place with
  | front => exact List.IsPrefix.trans finds begins
  | anywhere => exact List.IsInfix.trans finds begins.isInfix

theorem Finds.flatMap (finds : place.Finds part whole) (spelt : α → List β) :
    place.Finds (part.flatMap spelt) (whole.flatMap spelt) := by
  cases place with
  | front =>
    obtain ⟨after, rfl⟩ := finds
    exact ⟨after.flatMap spelt, List.flatMap_append.symm⟩
  | anywhere =>
    obtain ⟨before, after, rfl⟩ := finds
    exact ⟨before.flatMap spelt, after.flatMap spelt, by simp⟩

theorem finds_map_iff {f : α → β} (injective : Function.Injective f) :
    place.Finds (part.map f) (whole.map f) ↔ place.Finds part whole := by
  cases place with
  | front => exact List.prefix_map_iff_of_injective injective
  | anywhere =>
    refine List.infix_map_iff.trans ⟨fun ⟨same, stands, spelt⟩ => ?_, fun stands => ?_⟩
    · exact List.map_injective_iff.mpr injective spelt ▸ stands
    · exact ⟨part, stands, rfl⟩

/-- Text on one line stands in folded text only where it stands in the text itself. -/
theorem Finds.of_foldLines {part cs : List Char} (line : '\n' ∉ part)
    (finds : place.Finds part (Text.foldLines cs)) : place.Finds part cs := by
  cases place with
  | front => exact Text.prefix_of_prefix_foldLines line finds
  | anywhere => exact Text.infix_of_infix_foldLines line finds

/-- A text stands in data: among its characters, or spelt in its bytes. -/
def Shows (place : Place) (e : String) : Data → Prop
  | .text s => place.Finds e.toList s.toList
  | .bytes b => place.Finds (Text.Utf8.encode e) b

/-- What was shown is still shown after more bytes, even if these are no text any more; only a text
of several lines may be lost with the folding of line ends. -/
theorem Shows.append {e : String} {raw : Bytes} (shows : place.Shows e (.received raw))
    (later : Bytes)
    (readable : '\n' ∉ e.toList ∨ (Data.received (raw ++ later)).isText = true) :
    place.Shows e (.received (raw ++ later)) := by
  rcases before : Text.Utf8.scan raw with _ | cs
  · rw [Data.received_of_unread before] at shows
    rw [Data.received_of_unread (Text.Utf8.scan_append_of_none before later)]
    exact Finds.grow shows (List.prefix_append ..)
  · rw [Data.received_of_read before] at shows
    rcases after : Text.Utf8.scan (raw ++ later) with _ | ds
    · -- The data turns from text to bytes, which begin with the spelling of that text.
      rw [Data.received_of_unread after] at readable ⊢
      have line : '\n' ∉ e.toList := readable.resolve_right Bool.false_ne_true
      have folded : place.Finds e.toList (Text.foldLines cs) := by
        have begins : Data.tidy cs <+: Text.foldLines cs := Text.dropTrailing_isPrefix ..
        exact Finds.grow (by simpa [Shows] using shows) begins
      have spelt : place.Finds (Text.Utf8.encode e) (Text.Utf8.spell cs) :=
        (folded.of_foldLines line).flatMap String.utf8EncodeChar
      have begins := Text.Utf8.spell_prefix_of_scan before
      exact Finds.grow spelt (begins.trans (List.prefix_append ..))
    · rw [Data.received_of_read after]
      have begins := Data.tidy_isPrefix (Text.Utf8.scan_append_isPrefix before after)
      simp only [Shows, String.toList_ofList] at shows ⊢
      exact shows.grow begins

end Place

/-! ### Comparing -/

theorem standIn_iff {part whole : List Char} : standIn part whole = true ↔ part <:+: whole := by
  induction whole with
  | nil => simp [standIn]
  | cons c cs ih =>
    rw [standIn, Bool.or_eq_true, List.isPrefixOf_iff_prefix, ih, List.infix_cons_iff]

theorem byteChar_injective :
    Function.Injective fun byte : UInt8 => Char.ofNat byte.toNat := by
  intro a b same
  have small (byte : UInt8) : (Char.ofNat byte.toNat).val.toNat = byte.toNat :=
    Text.Utf8.toNat_ofNat (Or.inl (by have := byte.toNat_lt; omega))
  have codes := congrArg (fun c : Char => c.val.toNat) same
  simp only [small] at codes
  exact UInt8.toNat_inj.mp codes

/-- A comparison comes to what its operator answers. -/
theorem Operator.compare_of_holds {operator : Operator} {observed expected : Data} {answer : Bool}
    (holds : operator.holds observed (expected.alongside observed) = .ok answer) :
    operator.compare observed expected = .ok (if answer then .holds
      else .fails ⟨operator.name, expected.alongside observed, observed, ""⟩) := by
  unfold compare
  dsimp only
  rw [holds]
  cases answer with
  | true => rfl
  | false => rfl

namespace Place

variable {place : Place} {e : String} {observed : Data}

theorem holds_operator_iff : place.operator.holds observed ((Data.text e).alongside observed)
    = .ok true ↔ place.Shows e observed := by
  cases observed with
  | text s =>
    cases place with
    | front => simp [operator, Operator.holds, Data.alongside, Data.chars, Shows, Finds]
    | anywhere =>
      simp [operator, Operator.holds, Data.alongside, Data.chars, Shows, Finds, standIn_iff]
  | bytes b =>
    rw [Shows, ← finds_map_iff byteChar_injective]
    cases place with
    | front => simp [operator, Operator.holds, Data.alongside, Data.chars, Finds]
    | anywhere => simp [operator, Operator.holds, Data.alongside, Data.chars, Finds, standIn_iff]

theorem holds_operator_answers (observed expected : Data) :
    ∃ answer, place.operator.holds observed expected = .ok answer := by
  cases place with
  | front => exact ⟨_, rfl⟩
  | anywhere => exact ⟨_, rfl⟩

/-- A comparison holds where the text is shown, and is a mismatch elsewhere. -/
theorem compare_operator (place : Place) (e : String) (observed : Data) :
    (place.operator.compare observed (.text e) = .ok .holds ∧ place.Shows e observed)
      ∨ (∃ m, place.operator.compare observed (.text e) = .ok (.fails m))
        ∧ ¬ place.Shows e observed := by
  obtain ⟨answer, answered⟩ :=
    place.holds_operator_answers observed ((Data.text e).alongside observed)
  rw [← holds_operator_iff, Operator.compare_of_holds answered, answered]
  cases answer with
  | true => exact Or.inl ⟨rfl, rfl⟩
  | false => exact Or.inr ⟨⟨_, rfl⟩, nofun⟩

theorem compare_operator_iff :
    place.operator.compare observed (.text e) = .ok .holds ↔ place.Shows e observed := by
  rcases place.compare_operator e observed with ⟨holds, shows⟩ | ⟨⟨m, fails⟩, hidden⟩
  · exact iff_of_true holds shows
  · refine iff_of_false ?_ hidden
    rw [fails]
    nofun

end Place

end AcceptanceBench
