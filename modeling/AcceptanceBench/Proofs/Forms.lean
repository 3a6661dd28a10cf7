import AcceptanceBench.Proofs.Received

/-!
Data in either form. A text may reach a check as text or as the bytes that spell it, and so may the
text that the check expects. The first byte of a character is never one inside a character, so bytes
that spell a text stand in those of another one only where its characters do, and every comparison
comes to the same in all forms.
-/

namespace AcceptanceBench

namespace Text.Utf8

/-! ### Where characters begin -/

/-- A byte that is not inside a character begins one. -/
theorem exists_border {whole : List Char} {before after : Bytes} {b : UInt8} (lead : ¬ Inner b)
    (cut : spell whole = before ++ b :: after) :
    ∃ front back, whole = front ++ back ∧ before = spell front ∧ b :: after = spell back := by
  induction whole generalizing before with
  | nil => cases before <;> cases cut
  | cons c cs ih =>
    cases before with
    | nil => exact ⟨[], c :: cs, rfl, rfl, cut.symm⟩
    | cons d ds =>
      obtain ⟨first, tail, spelt, -, inner⟩ := encodeChar_bytes c
      have later (earlier : Bytes) (whole : d :: ds = String.utf8EncodeChar c ++ earlier)
          (rest : spell cs = earlier ++ b :: after) : ∃ front back, c :: cs = front ++ back
            ∧ d :: ds = spell front ∧ b :: after = spell back := by
        obtain ⟨front, back, rfl, rfl, same⟩ := ih rest
        exact ⟨c :: front, back, rfl, whole.trans (spell_cons c front).symm, same⟩
      rw [spell_cons] at cut
      rcases List.append_eq_append_iff.mp cut with ⟨earlier, whole, rest⟩ | ⟨rest, whole, onward⟩
      · exact later earlier whole rest
      · cases rest with
        | nil =>
          rw [List.append_nil] at whole
          exact later [] (by rw [whole, List.append_nil]) onward.symm
        | cons x xs =>
          -- The byte would stand after the first one of this character.
          obtain ⟨rfl, -⟩ := List.cons.inj onward
          rw [spelt] at whole
          obtain ⟨-, tail_eq⟩ := List.cons.inj whole
          exact absurd (inner b (by simp [tail_eq])) lead

/-! ### Spelt texts -/

theorem spell_injective : Function.Injective spell := by
  intro cs ds same
  have read := scan_spell cs
  rw [same, scan_spell] at read
  exact (Option.some.inj read).symm

variable {part whole : List Char}

theorem spell_isPrefix_iff : spell part <+: spell whole ↔ part <+: whole := by
  constructor
  · rintro ⟨rest, same⟩
    have read := scan_spell_append part rest
    rw [same, scan_spell] at read
    obtain ⟨later, -, rfl⟩ := Option.map_eq_some_iff.mp read.symm
    exact List.prefix_append part later
  · rintro ⟨later, rfl⟩
    exact ⟨spell later, (spell_append part later).symm⟩

/-- Bytes that spell a text other than the empty one begin where a character does. -/
theorem exists_border_of_spell {before after : Bytes} (some : part ≠ [])
    (cut : before ++ spell part ++ after = spell whole) :
    ∃ front back, whole = front ++ back ∧ spell part ++ after = spell back := by
  obtain ⟨c, cs, rfl⟩ := List.exists_cons_of_ne_nil some
  obtain ⟨first, tail, spelt, lead, -⟩ := encodeChar_bytes c
  have begins : spell (c :: cs) ++ after = first :: (tail ++ spell cs ++ after) := by
    rw [spell_cons, spelt]
    rfl
  rw [List.append_assoc, begins] at cut
  obtain ⟨front, back, split, -, same⟩ := exists_border lead cut.symm
  exact ⟨front, back, split, begins.trans same⟩

theorem spell_isInfix_iff : spell part <:+: spell whole ↔ part <:+: whole := by
  constructor
  · rintro ⟨before, after, cut⟩
    by_cases some : part = []
    · rw [some]
      exact List.nil_infix
    · obtain ⟨front, back, rfl, same⟩ := exists_border_of_spell some cut
      have begins : part <+: back := spell_isPrefix_iff.mp ⟨after, same⟩
      exact begins.isInfix.trans (List.suffix_append front back).isInfix
  · rintro ⟨before, after, rfl⟩
    exact ⟨spell before, spell after, by rw [spell_append, spell_append]⟩

theorem spell_isSuffix_iff : spell part <:+ spell whole ↔ part <:+ whole := by
  constructor
  · rintro ⟨before, cut⟩
    by_cases some : part = []
    · rw [some]
      exact List.nil_suffix
    · rw [← List.append_nil (before ++ spell part)] at cut
      obtain ⟨front, back, rfl, same⟩ := exists_border_of_spell some cut
      rw [List.append_nil] at same
      rw [spell_injective same]
      exact List.suffix_append front back
  · rintro ⟨before, rfl⟩
    exact ⟨spell before, (spell_append before part).symm⟩

theorem decode_encode (s : String) : decode (encode s) = s := by
  rw [decode, encode_eq_spell, lossy_spell, String.ofList_toList]

end Text.Utf8

/-! ### Comparing -/

namespace Operator

/-- What an operator says about the expected and the observed items. Patterns are matched in another
way. -/
def Relates {α : Type} (operator : Operator) (expected observed : List α) : Prop :=
  match operator with
  | .be => expected = observed
  | .contain => expected <:+: observed
  | .startWith => expected <+: observed
  | .endWith => expected <:+ observed
  | .matching => False

variable {operator : Operator}

/-- Spelling keeps what stands where. -/
theorem relates_spell_iff {e s : List Char} :
    operator.Relates (Text.Utf8.spell e) (Text.Utf8.spell s) ↔ operator.Relates e s := by
  cases operator with
  | be => exact Text.Utf8.spell_injective.eq_iff
  | contain => exact Text.Utf8.spell_isInfix_iff
  | startWith => exact Text.Utf8.spell_isPrefix_iff
  | endWith => exact Text.Utf8.spell_isSuffix_iff
  | matching => exact Iff.rfl

theorem relates_map_iff {α β : Type} {f : α → β} (injective : Function.Injective f) {e s : List α} :
    operator.Relates (e.map f) (s.map f) ↔ operator.Relates e s := by
  cases operator with
  | be => exact (List.map_injective_iff.mpr injective).eq_iff
  | contain => exact @Place.finds_map_iff α β .anywhere e s f injective
  | startWith => exact @Place.finds_map_iff α β .front e s f injective
  | endWith => exact List.suffix_map_iff_of_injective injective
  | matching => exact Iff.rfl

/-- An operator other than matching answers by the characters of data of one kind. -/
theorem holds_iff_relates (plain : operator ≠ .matching) {observed expected : Data}
    (same : observed = expected ↔ expected.chars = observed.chars) :
    ∃ answer, operator.holds observed expected = .ok answer
      ∧ (answer = true ↔ operator.Relates expected.chars observed.chars) := by
  cases operator with
  | be => exact ⟨_, rfl, beq_iff_eq.trans same⟩
  | contain => exact ⟨_, rfl, standIn_iff⟩
  | startWith => exact ⟨_, rfl, List.isPrefixOf_iff_prefix⟩
  | endWith => exact ⟨_, rfl, List.isSuffixOf_iff_suffix⟩
  | matching => exact absurd rfl plain

theorem holds_text (plain : operator ≠ .matching) (s e : String) :
    ∃ answer, operator.holds (.text s) (.text e) = .ok answer
      ∧ (answer = true ↔ operator.Relates e.toList s.toList) := by
  refine holds_iff_relates plain ?_
  rw [Data.text.injEq, eq_comm]
  exact String.toList_inj.symm

theorem holds_bytes (plain : operator ≠ .matching) (a b : Bytes) :
    ∃ answer, operator.holds (.bytes a) (.bytes b) = .ok answer
      ∧ (answer = true ↔ operator.Relates b a) := by
  have same : Data.bytes a = .bytes b ↔ (Data.bytes b).chars = (Data.bytes a).chars := by
    rw [Data.bytes.injEq, eq_comm]
    exact (List.map_injective_iff.mpr byteChar_injective).eq_iff.symm
  obtain ⟨answer, holds, relates⟩ := holds_iff_relates plain same
  exact ⟨answer, holds, relates.trans (relates_map_iff byteChar_injective)⟩

end Operator

/-- The data is the text, or the bytes that spell it. -/
def Data.Spells (d : Data) (s : String) : Prop :=
  d = .text s ∨ d = .bytes (Text.Utf8.encode s)

/-- In whichever form the data and the expected text are given, the operator answers by the
characters. -/
theorem Data.Spells.holds {operator : Operator} (plain : operator ≠ .matching)
    {observed expected : Data} {s e : String} (observes : observed.Spells s)
    (expects : expected.Spells e) :
    ∃ answer, operator.holds observed (expected.alongside observed) = .ok answer
      ∧ (answer = true ↔ operator.Relates e.toList s.toList) := by
  rcases observes with rfl | rfl
  · have brought : expected.alongside (.text s) = .text e := by
      rcases expects with rfl | rfl
      · rfl
      · exact congrArg Data.text (Text.Utf8.decode_encode e)
    rw [brought]
    exact Operator.holds_text plain s e
  · have brought : expected.alongside (.bytes (Text.Utf8.encode s))
        = .bytes (Text.Utf8.encode e) := by
      rcases expects with rfl | rfl
      · rfl
      · rfl
    rw [brought]
    obtain ⟨answer, holds, relates⟩ :=
      Operator.holds_bytes plain (Text.Utf8.encode s) (Text.Utf8.encode e)
    exact ⟨answer, holds, relates.trans Operator.relates_spell_iff⟩

/-- Every operator but matching, by any of its names, compares a text with a text in the same way
whether either of them is given as text or as its bytes: the comparison always has an outcome, and
it holds exactly if the characters stand where the operator says. -/
theorem compare_spells {given : Argument} {operator : Operator}
    (reads : Operator.read given = .ok operator) (plain : operator ≠ .matching)
    {observed expected : Data} {s e : String} (observes : observed.Spells s)
    (expects : expected.Spells e) :
    (∃ outcome, compare observed expected given = .ok outcome)
      ∧ (compare observed expected given = .ok .holds
        ↔ compare (.text s) (.text e) given = .ok .holds)
      ∧ (compare (.text s) (.text e) given = .ok .holds
        ↔ operator.Relates e.toList s.toList) := by
  have outcome {observed expected : Data} (observes : observed.Spells s)
      (expects : expected.Spells e) :
      (∃ outcome, compare observed expected given = .ok outcome)
        ∧ (compare observed expected given = .ok .holds
          ↔ operator.Relates e.toList s.toList) := by
    obtain ⟨answer, holds, relates⟩ := observes.holds plain expects
    have compared : compare observed expected given = .ok (if answer then .holds
        else .fails ⟨operator.name, expected.alongside observed, observed, ""⟩) := by
      rw [compare, reads]
      exact Operator.compare_of_holds holds
    rw [compared, ← relates]
    refine ⟨⟨_, rfl⟩, ?_⟩
    cases answer with
    | true => simp
    | false => simp
  obtain ⟨answers, verdict⟩ := outcome observes expects
  obtain ⟨-, texts⟩ := outcome (Or.inl rfl : (Data.text s).Spells s) (Or.inl rfl)
  exact ⟨answers, verdict.trans texts.symm, texts⟩

/-- A text that ends with the euro sign, given as bytes. -/
theorem compare_spells_euro :
    Operator.read (.text "ends-with") = .ok .endWith
      ∧ compare (.bytes (Text.Utf8.encode "5 €")) (.text "€") (.text "ends-with") = .ok .holds := by
  have reads : Operator.read (.text "ends-with") = .ok .endWith := rfl
  have observes : (Data.bytes (Text.Utf8.encode "5 €")).Spells "5 €" := Or.inr rfl
  have expects : (Data.text "€").Spells "€" := Or.inl rfl
  obtain ⟨-, alike, texts⟩ := compare_spells reads nofun observes expects
  have ends : Operator.endWith.Relates "€".toList "5 €".toList := ⟨"5 ".toList, by decide⟩
  exact ⟨reads, alike.mpr (texts.mpr ends)⟩

end AcceptanceBench
