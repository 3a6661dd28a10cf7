import AcceptanceBench.Proofs.Received

/-!
Which bytes are read as text. Bytes that more bytes could make well-formed are a text with at most
the beginning of a character behind it, and checks see that text with its line ends folded and the
blanks at its end dropped; all other bytes stay bytes. The only exception are bytes that end with
the first two of a surrogate: they are read as text although nothing can complete them.
-/

namespace AcceptanceBench

namespace Text.Utf8

/-- Bytes that spell some characters. No character is a surrogate or above U+10FFFF, and each has
only one spelling, so none of these stand here, nor any overlong form. -/
def WellFormed (raw : Bytes) : Prop :=
  ∃ cs, spell cs = raw

/-- The beginning of a character that has not arrived in full; it may be empty. -/
def Unfinished (held : Bytes) : Prop :=
  ∃ c, held <+: String.utf8EncodeChar c ∧ held ≠ String.utf8EncodeChar c

/-- The first two of the three bytes that would spell a surrogate. -/
def BeginsSurrogate (held : Bytes) : Prop :=
  ∃ b : UInt8, held = [0xED, b] ∧ 0xA0 ≤ b ∧ b ≤ 0xBF

/-- Well-formed bytes, and behind them the first two of a surrogate. -/
def EndsInSurrogate (raw : Bytes) : Prop :=
  ∃ cs held, raw = spell cs ++ held ∧ BeginsSurrogate held

/-! ### What is held back -/

theorem unfinished_nil : Unfinished [] :=
  ⟨'a', List.nil_prefix, nofun⟩

theorem Unfinished.length_le {held : Bytes} (unfinished : Unfinished held) : held.length ≤ 3 := by
  obtain ⟨c, begins, part⟩ := unfinished
  have shorter : held.length < (String.utf8EncodeChar c).length :=
    lt_of_le_of_ne begins.length_le fun same => part (begins.eq_of_length same)
  rw [String.length_utf8EncodeChar] at shorter
  exact Nat.le_of_lt_succ (lt_of_lt_of_le shorter c.utf8Size_le_four)

/-- Bytes that do not contradict a character can be completed to one. -/
theorem exists_gather_append {missing code more : Nat} {low high : UInt8} {bytes : Bytes}
    (range : low ≤ high) (fits : ∀ m, gather missing code more low high bytes ≠ .broken m) :
    ∃ later c m, gather missing code more low high (bytes ++ later) = .whole c m := by
  induction missing generalizing code more low high bytes with
  | zero => exact ⟨[], _, _, rfl⟩
  | succ missing ih =>
    have tail : (0x80 : UInt8) ≤ 0xBF := by decide
    cases bytes with
    | nil =>
      have empty : ∀ m, gather missing (code * 64 + (low.toNat - 0x80)) (more + 1) 0x80 0xBF []
          ≠ .broken m := by
        cases missing <;> nofun
      obtain ⟨later, c, m, whole⟩ := ih tail empty
      exact ⟨low :: later, c, m, (gather_in_range later ⟨le_rfl, range⟩).trans whole⟩
    | cons b rest =>
      by_cases inRange : low ≤ b ∧ b ≤ high
      · rw [gather_in_range rest inRange] at fits
        obtain ⟨later, c, m, whole⟩ := ih tail fits
        exact ⟨later, c, m, (gather_in_range (rest ++ later) inRange).trans whole⟩
      · exact absurd ((gather_succ_cons ..).trans (if_neg inRange)) (fits more)

theorem lowest_le_highest (a : UInt8) : lowest a ≤ highest a := by
  unfold lowest highest
  split_ifs <;> simp <;> omega

theorem exists_head_append {first : UInt8} {rest : Bytes} (cut : head first rest = .cut) :
    ∃ later c m, head first (rest ++ later) = .whole c m := by
  have fits (m : Nat) : head first rest ≠ .broken m := by
    rw [cut]
    nofun
  rcases first_cases first with one | two | three | four | none
  · rw [head_one one] at cut
    cases cut
  · simp only [head_two two] at fits ⊢
    exact exists_gather_append (by decide) fits
  · simp only [head_three three] at fits ⊢
    exact exists_gather_append (lowest_le_highest first) fits
  · simp only [head_four four] at fits ⊢
    exact exists_gather_append (lowest_le_highest first) fits
  · rw [head_broken none] at cut
    cases cut

/-- Bytes that are cut off within a character begin one. -/
theorem unfinished_of_cut {first : UInt8} {rest : Bytes} (cut : head first rest = .cut) :
    Unfinished (first :: rest) := by
  obtain ⟨later, c, m, whole⟩ := exists_head_append cut
  obtain ⟨tail, further, spelt, split, -⟩ := spelt_of_head whole
  refine ⟨c, ?_, ?_⟩
  · rw [spelt]
    rcases List.append_eq_append_iff.mp split with ⟨missing, rfl, -⟩ | ⟨surplus, rfl, -⟩
    · exact (List.prefix_cons_inj first).mpr (List.prefix_append rest missing)
    · -- All of the character would be there already.
      obtain ⟨lead, others, same, read⟩ := head_encodeChar c surplus
      obtain ⟨rfl, rfl⟩ := List.cons.inj (spelt.symm.trans same)
      rw [cut] at read
      cases read
  · intro all
    obtain ⟨lead, others, same, read⟩ := head_encodeChar c []
    obtain ⟨rfl, rfl⟩ := List.cons.inj (all.trans same)
    rw [List.append_nil, cut] at read
    cases read

theorem beginsSurrogate_of_isCutSurrogate {held : Bytes} (surrogate : isCutSurrogate held = true) :
    BeginsSurrogate held := by
  rcases held with _ | ⟨a, _ | ⟨b, _ | ⟨c, rest⟩⟩⟩
  · cases surrogate
  · cases surrogate
  · simp only [isCutSurrogate, Bool.and_eq_true, beq_iff_eq, decide_eq_true_eq] at surrogate
    obtain ⟨⟨rfl, least⟩, greatest⟩ := surrogate
    exact ⟨b, rfl, least, greatest⟩
  · cases surrogate

/-- A stream that is read consists of the characters read and of what is held back. -/
theorem exists_held_of_scan {raw : Bytes} {cs : List Char} (read : scan raw = some cs) :
    ∃ held, raw = spell cs ++ held ∧ (Unfinished held ∨ BeginsSurrogate held) := by
  fun_induction scan raw generalizing cs with
  | case1 =>
    cases read
    exact ⟨[], rfl, Or.inl unfinished_nil⟩
  | case2 first rest c more whole ih =>
    obtain ⟨ds, later, rfl⟩ := Option.map_eq_some_iff.mp read
    obtain ⟨tail, rest', spelt, rfl, rfl⟩ := spelt_of_head whole
    rw [List.drop_left] at ih later
    obtain ⟨held, rfl, ends⟩ := ih later
    refine ⟨held, ?_, ends⟩
    rw [spell_cons, spelt, List.append_assoc, List.cons_append]
  | case3 first rest cut =>
    cases read
    exact ⟨first :: rest, rfl, Or.inl (unfinished_of_cut cut)⟩
  | case4 first rest more broken surrogate =>
    cases read
    exact ⟨first :: rest, rfl, Or.inr (beginsSurrogate_of_isCutSurrogate surrogate)⟩
  | case5 first rest more broken other => cases read

/-- What is read of a stream is the longest part at its front that is well-formed. -/
theorem longest_of_scan {raw front : Bytes} {cs : List Char} (read : scan raw = some cs)
    (formed : WellFormed front) (begins : front <+: raw) : front <+: spell cs := by
  obtain ⟨ds, rfl⟩ := formed
  obtain ⟨rest, rfl⟩ := begins
  rw [scan_spell_append] at read
  obtain ⟨later, -, rfl⟩ := Option.map_eq_some_iff.mp read
  rw [spell_append]
  exact List.prefix_append ..

/-! ### What can be completed -/

theorem exists_scan_of_wellFormed {raw later : Bytes} (formed : WellFormed (raw ++ later)) :
    ∃ cs, scan raw = some cs := by
  obtain ⟨ds, spelt⟩ := formed
  cases read : scan raw with
  | some cs => exact ⟨cs, rfl⟩
  | none =>
    have never := scan_append_of_none read later
    rw [← spelt, scan_spell] at never
    cases never

theorem wellFormed_of_unfinished {held : Bytes} (cs : List Char) (unfinished : Unfinished held) :
    ∃ later, WellFormed (spell cs ++ held ++ later) := by
  obtain ⟨c, ⟨later, whole⟩, -⟩ := unfinished
  refine ⟨later, cs ++ [c], ?_⟩
  rw [spell_append, List.append_assoc, whole]
  simp [spell]

/-- After the first two bytes of a surrogate nothing is read any more. -/
theorem scan_of_beginsSurrogate {held later : Bytes} (surrogate : BeginsSurrogate held) :
    scan (held ++ later) = if later = [] then some [] else none := by
  obtain ⟨b, rfl, least, greatest⟩ := surrogate
  have above : ¬ ((0x80 : UInt8) ≤ b ∧ b ≤ 0x9F) := fun inRange =>
    absurd (UInt8.le_trans least inRange.2) (by decide)
  have broken : head 0xED (b :: later) = .broken 0 := by
    rw [head_three (by decide), gather_succ_cons]
    exact if_neg above
  change scan (0xED :: b :: later) = _
  rw [scan, broken]
  cases later with
  | nil => simp [isCutSurrogate, least, greatest]
  | cons d ds => simp [isCutSurrogate]

/-- Nothing makes the beginning of a surrogate well-formed. -/
theorem not_wellFormed_of_surrogate {held : Bytes} (cs : List Char)
    (surrogate : BeginsSurrogate held) (later : Bytes) :
    ¬ WellFormed (spell cs ++ held ++ later) := by
  rintro ⟨ds, spelt⟩
  have onward : spell (ds ++ ['a']) = spell cs ++ (held ++ (later ++ [97])) := by
    rw [spell_append, spelt]
    simp [spell, String.utf8EncodeChar]
  have read := scan_spell (ds ++ ['a'])
  rw [onward, scan_spell_append, scan_of_beginsSurrogate surrogate, if_neg (by simp)] at read
  cases read

end Text.Utf8

/-! ### Tidied text -/

/-- A text cut at every carriage return and line feed into lines, and the same lines with line feeds
between them but without the blanks at the very end. -/
structure Tidied (cs : List Char) (lines : List (List Char)) (blanks : List Char) (s : String) :
    Prop where
  cut : cs = ['\r', '\n'].intercalate lines
  uncut : ∀ line ∈ lines, ¬ ['\r', '\n'] <:+: line
  joined : ['\n'].intercalate lines = s.toList ++ blanks
  blank : ∀ c ∈ blanks, Text.isBlank c = true
  ended : ∀ c ∈ s.toList.getLast?, Text.isBlank c = false

namespace Text

/-- Folding line ends joins the lines between them with line feeds. -/
theorem exists_lines (cs : List Char) :
    ∃ first rest, cs = ['\r', '\n'].intercalate (first :: rest)
      ∧ (∀ line ∈ first :: rest, ¬ ['\r', '\n'] <:+: line)
      ∧ foldLines cs = ['\n'].intercalate (first :: rest) := by
  fun_induction foldLines cs with
  | case1 =>
    refine ⟨[], [], rfl, ?_, rfl⟩
    simp
  | case2 cs ih =>
    obtain ⟨first, rest, cut, uncut, joined⟩ := ih
    refine ⟨[], first :: rest, ?_, ?_, ?_⟩
    · rw [List.intercalate_cons_cons, ← cut]
      rfl
    · refine List.forall_mem_cons.mpr ⟨?_, uncut⟩
      simp
    · rw [List.intercalate_cons_cons, ← joined]
      rfl
  | case3 c cs other ih =>
    obtain ⟨first, rest, cut, uncut, joined⟩ := ih
    have longer (separator : List Char) : separator.intercalate ((c :: first) :: rest)
        = c :: separator.intercalate (first :: rest) := by
      cases rest with
      | nil => simp
      | cons second more => simp [List.intercalate_cons_cons]
    refine ⟨c :: first, rest, ?_, ?_, ?_⟩
    · rw [longer, ← cut]
    · obtain ⟨whole, others⟩ := List.forall_mem_cons.mp uncut
      refine List.forall_mem_cons.mpr ⟨fun pair => ?_, others⟩
      rcases List.infix_cons_iff.mp pair with begins | inner
      · -- The pair would stand at the front of the text.
        obtain ⟨rfl, feed⟩ := List.cons_prefix_cons.mp begins
        obtain ⟨line, rfl⟩ := feed
        cases rest with
        | nil => exact other line rfl (by simpa using cut)
        | cons second more =>
          rw [List.intercalate_cons_cons] at cut
          exact other _ rfl cut
      · exact whole inner
    · rw [longer, ← joined]

theorem exists_blanks (cs : List Char) :
    ∃ blanks, cs = dropTrailing isBlank cs ++ blanks ∧ (∀ c ∈ blanks, isBlank c = true)
      ∧ ∀ c ∈ (dropTrailing isBlank cs).getLast?, isBlank c = false := by
  refine ⟨cs.rtakeWhile isBlank, List.rdropWhile_append_rtakeWhile.symm,
    fun c there => List.mem_rtakeWhile_imp there, fun c last => ?_⟩
  obtain ⟨some, rfl⟩ := List.mem_getLast?_eq_getLast last
  exact Bool.eq_false_iff.mpr (List.rdropWhile_last_not isBlank cs some)

end Text

namespace Data

open Text.Utf8

theorem exists_tidied (cs : List Char) :
    ∃ lines blanks, Tidied cs lines blanks (String.ofList (tidy cs)) := by
  obtain ⟨first, rest, cut, uncut, joined⟩ := Text.exists_lines cs
  obtain ⟨blanks, split, blank, ended⟩ := Text.exists_blanks (Text.foldLines cs)
  refine ⟨first :: rest, blanks, cut, uncut, ?_, blank, ?_⟩
  · rw [← joined, String.toList_ofList]
    exact split
  · rw [String.toList_ofList]
    exact ended

/-! ### What checks see -/

/-- Checks see the bytes as a text: that of the longest well-formed part at their front, tidied. At
most three bytes behind it are held back. -/
structure Reads (raw : Bytes) (cs : List Char) (held : Bytes) : Prop where
  all : raw = spell cs ++ held
  longest : ∀ front, WellFormed front → front <+: raw → front <+: spell cs
  short : held.length ≤ 3
  text : ∃ lines blanks s, received raw = .text s ∧ Tidied cs lines blanks s

/-- Bytes that more bytes could make well-formed are a text and the beginning of a character, and
checks see that text; they see any other bytes as they are. -/
structure Classifies (raw : Bytes) : Prop where
  text : (∃ later, WellFormed (raw ++ later)) →
    ∃ cs held, Reads raw cs held ∧ Unfinished held
  bytes : (¬ ∃ later, WellFormed (raw ++ later)) → received raw = .bytes raw

theorem reads_of_scan {raw : Bytes} {cs : List Char} (read : scan raw = some cs) :
    ∃ held, Reads raw cs held ∧ (Unfinished held ∨ BeginsSurrogate held) := by
  obtain ⟨held, all, ends⟩ := exists_held_of_scan read
  obtain ⟨lines, blanks, tidied⟩ := exists_tidied cs
  refine ⟨held, ⟨all, fun front => longest_of_scan read, ?_, ?_⟩, ends⟩
  · rcases ends with unfinished | ⟨b, rfl, -⟩
    · exact unfinished.length_le
    · exact Nat.le_succ 2
  · exact ⟨lines, blanks, _, received_of_read read, tidied⟩

theorem reads_of_endsInSurrogate {raw : Bytes} (surrogate : EndsInSurrogate raw) :
    (¬ ∃ later, WellFormed (raw ++ later))
      ∧ ∃ cs held, Reads raw cs held ∧ BeginsSurrogate held := by
  obtain ⟨cs, held, rfl, begins⟩ := surrogate
  have nothing := @scan_of_beginsSurrogate held [] begins
  rw [List.append_nil, if_pos rfl] at nothing
  have read : scan (spell cs ++ held) = some cs := by
    rw [scan_spell_append, nothing]
    exact congrArg some (List.append_nil cs)
  obtain ⟨held', reads, -⟩ := reads_of_scan read
  obtain rfl : held = held' := List.append_cancel_left reads.all
  exact ⟨fun ⟨later, formed⟩ => not_wellFormed_of_surrogate cs begins later formed,
    cs, held, reads, begins⟩

theorem classifies_of_not_surrogate {raw : Bytes} (other : ¬ EndsInSurrogate raw) :
    Classifies raw := by
  have reads {cs : List Char} (read : scan raw = some cs) :
      ∃ held, Reads raw cs held ∧ Unfinished held := by
    obtain ⟨held, reads, unfinished | surrogate⟩ := reads_of_scan read
    · exact ⟨held, reads, unfinished⟩
    · exact absurd ⟨cs, held, reads.all, surrogate⟩ other
  constructor
  · rintro ⟨later, formed⟩
    obtain ⟨cs, read⟩ := exists_scan_of_wellFormed formed
    exact ⟨cs, reads read⟩
  · intro never
    cases read : scan raw with
    | none => exact received_of_unread read
    | some cs =>
      obtain ⟨held, ⟨all, -⟩, unfinished⟩ := reads read
      exact absurd (all ▸ wellFormed_of_unfinished cs unfinished) never

/-- Received bytes are classified exactly, unless they end with the first two bytes of a surrogate
behind well-formed ones. Then no more bytes make them well-formed, and still checks see the text of
the well-formed ones. -/
theorem classifies_iff (raw : Bytes) :
    (Classifies raw ↔ ¬ EndsInSurrogate raw)
      ∧ (EndsInSurrogate raw → (¬ ∃ later, WellFormed (raw ++ later))
        ∧ ∃ cs held, Reads raw cs held ∧ BeginsSurrogate held) := by
  refine ⟨⟨fun classifies surrogate => ?_, classifies_of_not_surrogate⟩,
    reads_of_endsInSurrogate⟩
  obtain ⟨never, cs, held, reads, -⟩ := reads_of_endsInSurrogate surrogate
  obtain ⟨lines, blanks, s, read, -⟩ := reads.text
  rw [classifies.bytes never] at read
  cases read

/-- The first two bytes of a surrogate are read as the empty text. -/
theorem not_classifies_surrogate : ¬ Classifies [0xED, 0xA0] := by
  intro classifies
  have begins : BeginsSurrogate [0xED, 0xA0] := ⟨0xA0, rfl, by decide, by decide⟩
  have never : ¬ ∃ later, WellFormed ([0xED, 0xA0] ++ later) := fun ⟨later, formed⟩ =>
    not_wellFormed_of_surrogate [] begins later formed
  have read : received [0xED, 0xA0] = .text "" := by decide +kernel
  rw [classifies.bytes never] at read
  cases read

end Data

end AcceptanceBench
