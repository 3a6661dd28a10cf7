import AcceptanceBench.Text.Utf8
import Mathlib.Data.List.Infix

/-!
Text that is still arriving. The bytes that a character is read from are those that spell it, so a
stream begins with the spelling of what was read from it. What was read stays read when more bytes
arrive, bytes that are no text stay none, and spelt text is read back as it is.
-/

namespace AcceptanceBench.Text.Utf8

/-! ### The bytes of a character -/

theorem toNat_ofNat {n : Nat} (valid : n < 0xD800 ∨ 0xDFFF < n ∧ n < 0x110000) :
    (Char.ofNat n).val.toNat = n := by
  rw [Char.ofNat, dif_pos valid]
  rfl

theorem ofNat_eq_byte {n : Nat} {b : UInt8} (same : n = b.toNat) : UInt8.ofNat n = b := by
  rw [same]
  exact UInt8.ofNat_toNat

theorem encodeChar_one {a : UInt8} (ha : a.toNat < 0x80) :
    String.utf8EncodeChar (Char.ofNat a.toNat) = [a] := by
  rw [String.utf8EncodeChar, toNat_ofNat (Or.inl (by omega)), if_pos (by omega)]
  rw [ofNat_eq_byte rfl]

theorem encodeChar_two {a b : UInt8} {code : Nat} (ha : 0xC2 ≤ a.toNat ∧ a.toNat < 0xE0)
    (hb : 0x80 ≤ b.toNat ∧ b.toNat ≤ 0xBF)
    (spelt : code = (a.toNat - 0xC0) * 64 + (b.toNat - 0x80)) :
    String.utf8EncodeChar (Char.ofNat code) = [a, b] := by
  rw [String.utf8EncodeChar, toNat_ofNat (Or.inl (by omega)), if_neg (by omega), if_pos (by omega)]
  rw [ofNat_eq_byte (b := a) (by omega), ofNat_eq_byte (b := b) (by omega)]

theorem encodeChar_three {a b c : UInt8} {code : Nat} (ha : 0xE0 ≤ a.toNat ∧ a.toNat < 0xF0)
    (hb : 0x80 ≤ b.toNat ∧ b.toNat ≤ 0xBF) (hc : 0x80 ≤ c.toNat ∧ c.toNat ≤ 0xBF)
    (spelt : code = ((a.toNat - 0xE0) * 64 + (b.toNat - 0x80)) * 64 + (c.toNat - 0x80))
    (long : 0x800 ≤ code) (valid : code < 0xD800 ∨ 0xDFFF < code) :
    String.utf8EncodeChar (Char.ofNat code) = [a, b, c] := by
  rw [String.utf8EncodeChar, toNat_ofNat (by omega), if_neg (by omega), if_neg (by omega),
    if_pos (by omega)]
  rw [ofNat_eq_byte (b := a) (by omega), ofNat_eq_byte (b := b) (by omega),
    ofNat_eq_byte (b := c) (by omega)]

theorem encodeChar_four {a b c d : UInt8} {code : Nat} (ha : 0xF0 ≤ a.toNat ∧ a.toNat < 0xF5)
    (hb : 0x80 ≤ b.toNat ∧ b.toNat ≤ 0xBF) (hc : 0x80 ≤ c.toNat ∧ c.toNat ≤ 0xBF)
    (hd : 0x80 ≤ d.toNat ∧ d.toNat ≤ 0xBF)
    (spelt : code = (((a.toNat - 0xF0) * 64 + (b.toNat - 0x80)) * 64 + (c.toNat - 0x80)) * 64
      + (d.toNat - 0x80))
    (long : 0x10000 ≤ code) (valid : code < 0x110000) :
    String.utf8EncodeChar (Char.ofNat code) = [a, b, c, d] := by
  rw [String.utf8EncodeChar, toNat_ofNat (by omega), if_neg (by omega), if_neg (by omega),
    if_neg (by omega)]
  rw [ofNat_eq_byte (b := a) (by omega), ofNat_eq_byte (b := b) (by omega),
    ofNat_eq_byte (b := c) (by omega), ofNat_eq_byte (b := d) (by omega)]

/-- The byte comes after the first one of a character. -/
def Inner (b : UInt8) : Prop := 0x80 ≤ b.toNat ∧ b.toNat ≤ 0xBF

/-- Of the bytes of a character all but the first tell that they are not the first. -/
theorem encodeChar_bytes (c : Char) : ∃ first tail,
    String.utf8EncodeChar c = first :: tail ∧ ¬ Inner first ∧ ∀ b ∈ tail, Inner b := by
  have valid : c.val.toNat < 0xD800 ∨ 0xDFFF < c.val.toNat ∧ c.val.toNat < 0x110000 := c.valid
  have inner (n : Nat) : Inner (UInt8.ofNat (n % 64 + 128)) := by
    unfold Inner
    rw [UInt8.toNat_ofNat_of_lt' (show n % 64 + 128 < 256 by omega)]
    omega
  have lead {n : Nat} (small : n < 256) (outside : n < 0x80 ∨ 0xBF < n) :
      ¬ Inner (UInt8.ofNat n) := by
    unfold Inner
    rw [UInt8.toNat_ofNat_of_lt' small]
    omega
  rw [String.utf8EncodeChar]
  generalize c.val.toNat = v at valid
  split_ifs with h₁ h₂ h₃
  · exact ⟨_, _, rfl, lead (by omega) (by omega), List.forall_mem_nil _⟩
  · refine ⟨_, _, rfl, lead (by omega) (by omega), ?_⟩
    exact List.forall_mem_singleton.mpr (inner v)
  · refine ⟨_, _, rfl, lead (by omega) (by omega), ?_⟩
    exact List.forall_mem_cons.mpr ⟨inner (v / 64), List.forall_mem_singleton.mpr (inner v)⟩
  · refine ⟨_, _, rfl, lead (by omega) (by omega), ?_⟩
    refine List.forall_mem_cons.mpr ⟨inner (v / 4096), ?_⟩
    exact List.forall_mem_cons.mpr ⟨inner (v / 64), List.forall_mem_singleton.mpr (inner v)⟩

/-! ### Reading one character -/

/-- The least second byte after a first one. -/
def lowest (first : UInt8) : UInt8 :=
  if first.toNat = 0xE0 then 0xA0 else if first.toNat = 0xF0 then 0x90 else 0x80

/-- The greatest second byte after a first one. -/
def highest (first : UInt8) : UInt8 :=
  if first.toNat = 0xED then 0x9F else if first.toNat = 0xF4 then 0x8F else 0xBF

/-- The second byte is a continuation, and it excludes overlong forms, surrogates and code points
above U+10FFFF. -/
theorem second_range_iff {a b : UInt8} :
    (lowest a).toNat ≤ b.toNat ∧ b.toNat ≤ (highest a).toNat ↔
      (0x80 ≤ b.toNat ∧ b.toNat ≤ 0xBF) ∧ (a.toNat = 0xE0 → 0xA0 ≤ b.toNat)
        ∧ (a.toNat = 0xED → b.toNat ≤ 0x9F) ∧ (a.toNat = 0xF0 → 0x90 ≤ b.toNat)
        ∧ (a.toNat = 0xF4 → b.toNat ≤ 0x8F) := by
  unfold lowest highest
  split_ifs <;> simp <;> omega

theorem head_one {a : UInt8} (ha : a.toNat < 0x80) (rest : Bytes) :
    head a rest = .whole (Char.ofNat a.toNat) 0 := by
  unfold head
  dsimp only
  rw [if_pos ha]

theorem head_two {a : UInt8} (ha : 0xC2 ≤ a.toNat ∧ a.toNat < 0xE0) (rest : Bytes) :
    head a rest = gather 1 (a.toNat - 0xC0) 0 0x80 0xBF rest := by
  unfold head
  dsimp only
  rw [if_neg (by omega), if_neg (by omega), if_pos (by omega)]

theorem head_three {a : UInt8} (ha : 0xE0 ≤ a.toNat ∧ a.toNat < 0xF0) (rest : Bytes) :
    head a rest = gather 2 (a.toNat - 0xE0) 0 (lowest a) (highest a) rest := by
  have f0 : ¬ a.toNat = 0xF0 := by omega
  have f4 : ¬ a.toNat = 0xF4 := by omega
  unfold head lowest highest
  dsimp only
  rw [if_neg (by omega), if_neg (by omega), if_neg (by omega)]
  by_cases e0 : a.toNat = 0xE0
  · simp [e0]
  · by_cases ed : a.toNat = 0xED
    · simp [ed]
    · simp only [e0, ed, f0, f4, ha.2, if_false, if_true]

theorem head_four {a : UInt8} (ha : 0xF0 ≤ a.toNat ∧ a.toNat < 0xF5) (rest : Bytes) :
    head a rest = gather 3 (a.toNat - 0xF0) 0 (lowest a) (highest a) rest := by
  have e0 : ¬ a.toNat = 0xE0 := by omega
  have ed : ¬ a.toNat = 0xED := by omega
  unfold head lowest highest
  dsimp only
  rw [if_neg (by omega), if_neg (by omega), if_neg (by omega), if_neg e0, if_neg ed,
    if_neg (by omega), if_neg e0, if_neg ed]
  by_cases f0 : a.toNat = 0xF0
  · simp [f0]
  · by_cases f4 : a.toNat = 0xF4
    · simp [f4]
    · have inner : a.toNat < 0xF4 := by omega
      simp only [f0, f4, inner, if_false, if_true]

theorem head_broken {a : UInt8} (ha : 0x80 ≤ a.toNat ∧ a.toNat < 0xC2 ∨ 0xF5 ≤ a.toNat)
    (rest : Bytes) : head a rest = .broken 0 := by
  unfold head
  dsimp only
  rw [if_neg (by omega)]
  by_cases low : a.toNat < 0xC2
  · rw [if_pos low]
  · rw [if_neg low, if_neg (by omega), if_neg (by omega), if_neg (by omega), if_neg (by omega),
      if_neg (by omega), if_neg (by omega), if_neg (by omega)]

theorem first_cases (a : UInt8) :
    a.toNat < 0x80 ∨ (0xC2 ≤ a.toNat ∧ a.toNat < 0xE0) ∨ (0xE0 ≤ a.toNat ∧ a.toNat < 0xF0)
      ∨ (0xF0 ≤ a.toNat ∧ a.toNat < 0xF5)
      ∨ (0x80 ≤ a.toNat ∧ a.toNat < 0xC2 ∨ 0xF5 ≤ a.toNat) := by
  omega

theorem gather_succ_cons (missing code more : Nat) (low high b : UInt8) (rest : Bytes) :
    gather (missing + 1) code more low high (b :: rest) =
      if low ≤ b ∧ b ≤ high then
        gather missing (code * 64 + (b.toNat - 0x80)) (more + 1) 0x80 0xBF rest
      else .broken more := rfl

theorem exists_of_gather_succ {missing code more : Nat} {low high : UInt8} {bytes : Bytes}
    {c : Char} {m : Nat} (whole : gather (missing + 1) code more low high bytes = .whole c m) :
    ∃ b rest, bytes = b :: rest ∧ (low.toNat ≤ b.toNat ∧ b.toNat ≤ high.toNat)
      ∧ gather missing (code * 64 + (b.toNat - 0x80)) (more + 1) 0x80 0xBF rest = .whole c m := by
  cases bytes with
  | nil => cases whole
  | cons b rest =>
    rw [gather_succ_cons] at whole
    split at whole
    · rename_i inRange
      exact ⟨b, rest, rfl, inRange, whole⟩
    · cases whole

/-- More bytes change neither a whole character nor bytes that begin none. -/
theorem gather_append {missing code more : Nat} {low high : UInt8} {bytes : Bytes}
    (shown : gather missing code more low high bytes ≠ .cut) (later : Bytes) :
    gather missing code more low high (bytes ++ later)
      = gather missing code more low high bytes := by
  induction missing generalizing code more low high bytes with
  | zero => rfl
  | succ missing ih =>
    cases bytes with
    | nil => exact absurd rfl shown
    | cons b rest =>
      rw [gather_succ_cons] at shown
      rw [List.cons_append, gather_succ_cons, gather_succ_cons]
      by_cases inRange : low ≤ b ∧ b ≤ high
      · rw [if_pos inRange] at shown
        rw [if_pos inRange, if_pos inRange, ih shown]
      · rw [if_neg inRange, if_neg inRange]

theorem head_append {first : UInt8} {rest : Bytes} (shown : head first rest ≠ .cut)
    (later : Bytes) : head first (rest ++ later) = head first rest := by
  rcases first_cases first with one | two | three | four | none
  · rw [head_one one, head_one one]
  · rw [head_two two] at shown ⊢
    rw [head_two two, gather_append shown]
  · rw [head_three three] at shown ⊢
    rw [head_three three, gather_append shown]
  · rw [head_four four] at shown ⊢
    rw [head_four four, gather_append shown]
  · rw [head_broken none, head_broken none]

/-- A whole character at the front is spelt by the bytes that it takes. -/
theorem spelt_of_head {first : UInt8} {rest : Bytes} {c : Char} {m : Nat}
    (whole : head first rest = .whole c m) :
    ∃ tail later, String.utf8EncodeChar c = first :: tail ∧ rest = tail ++ later
      ∧ m = tail.length := by
  rcases first_cases first with one | two | three | four | none
  · rw [head_one one] at whole
    obtain ⟨rfl, rfl⟩ := Head.whole.inj whole
    exact ⟨[], rest, encodeChar_one one, rfl, rfl⟩
  · rw [head_two two] at whole
    obtain ⟨b, later, rfl, in₁, whole⟩ := exists_of_gather_succ whole
    obtain ⟨rfl, rfl⟩ := Head.whole.inj whole
    exact ⟨[b], later, encodeChar_two two in₁ rfl, rfl, rfl⟩
  · rw [head_three three] at whole
    obtain ⟨b₁, rest, rfl, in₁, whole⟩ := exists_of_gather_succ whole
    obtain ⟨b₂, later, rfl, in₂, whole⟩ := exists_of_gather_succ whole
    obtain ⟨rfl, rfl⟩ := Head.whole.inj whole
    obtain ⟨tail₁, e0, ed, -, -⟩ := second_range_iff.mp in₁
    have tail₂ : 0x80 ≤ b₂.toNat ∧ b₂.toNat ≤ 0xBF := in₂
    refine ⟨[b₁, b₂], later, ?_, rfl, rfl⟩
    exact encodeChar_three three tail₁ tail₂ rfl (by omega) (by omega)
  · rw [head_four four] at whole
    obtain ⟨b₁, rest, rfl, in₁, whole⟩ := exists_of_gather_succ whole
    obtain ⟨b₂, rest, rfl, in₂, whole⟩ := exists_of_gather_succ whole
    obtain ⟨b₃, later, rfl, in₃, whole⟩ := exists_of_gather_succ whole
    obtain ⟨rfl, rfl⟩ := Head.whole.inj whole
    obtain ⟨tail₁, -, -, f0, f4⟩ := second_range_iff.mp in₁
    have tail₂ : 0x80 ≤ b₂.toNat ∧ b₂.toNat ≤ 0xBF := in₂
    have tail₃ : 0x80 ≤ b₃.toNat ∧ b₃.toNat ≤ 0xBF := in₃
    refine ⟨[b₁, b₂, b₃], later, ?_, rfl, rfl⟩
    exact encodeChar_four four tail₁ tail₂ tail₃ rfl (by omega) (by omega)
  · rw [head_broken none] at whole
    cases whole

theorem gather_in_range {missing code more : Nat} {low high b : UInt8} (rest : Bytes)
    (inRange : low.toNat ≤ b.toNat ∧ b.toNat ≤ high.toNat) :
    gather (missing + 1) code more low high (b :: rest) =
      gather missing (code * 64 + (b.toNat - 0x80)) (more + 1) 0x80 0xBF rest :=
  (gather_succ_cons ..).trans (if_pos inRange)

theorem gather_tail {missing code more : Nat} {b : UInt8} (rest : Bytes)
    (tail : 0x80 ≤ b.toNat ∧ b.toNat ≤ 0xBF) :
    gather (missing + 1) code more 0x80 0xBF (b :: rest) =
      gather missing (code * 64 + (b.toNat - 0x80)) (more + 1) 0x80 0xBF rest :=
  gather_in_range rest tail

theorem exists_byte {n : Nat} (small : n < 256) : ∃ b, UInt8.ofNat n = b ∧ b.toNat = n :=
  ⟨_, rfl, UInt8.toNat_ofNat_of_lt' small⟩

/-- The bytes that spell a character are read as that character, whatever follows them. -/
theorem head_encodeChar (c : Char) (later : Bytes) :
    ∃ first tail, String.utf8EncodeChar c = first :: tail
      ∧ head first (tail ++ later) = .whole c tail.length := by
  have again : Char.ofNat c.val.toNat = c := Char.ofNat_toNat c
  have valid : c.val.toNat < 0xD800 ∨ 0xDFFF < c.val.toNat ∧ c.val.toNat < 0x110000 := c.valid
  rw [String.utf8EncodeChar]
  generalize c.val.toNat = v at again valid
  subst again
  have tail (n : Nat) : ∃ b, UInt8.ofNat (n % 64 + 128) = b ∧ b.toNat = n % 64 + 128 :=
    exists_byte (by omega)
  -- One case for each number of bytes: the first byte tells it, and the others hold six bits each.
  split_ifs with h₁ h₂ h₃
  · obtain ⟨a, wa, ha⟩ := exists_byte (n := v) (by omega)
    rw [wa]
    refine ⟨a, [], rfl, ?_⟩
    rw [head_one (by omega), ha]
    rfl
  · obtain ⟨a, wa, ha⟩ := exists_byte (n := v / 64 % 32 + 192) (by omega)
    obtain ⟨b, wb, hb⟩ := tail v
    rw [wa, wb]
    have in₁ : 0x80 ≤ b.toNat ∧ b.toNat ≤ 0xBF := by omega
    have code : (a.toNat - 0xC0) * 64 + (b.toNat - 0x80) = v := by omega
    refine ⟨a, [b], rfl, ?_⟩
    rw [head_two (by omega), List.cons_append, gather_tail _ in₁, code]
    rfl
  · obtain ⟨a, wa, ha⟩ := exists_byte (n := v / 4096 % 16 + 224) (by omega)
    obtain ⟨b, wb, hb⟩ := tail (v / 64)
    obtain ⟨c, wc, hc⟩ := tail v
    rw [wa, wb, wc]
    have in₁ := second_range_iff (a := a) (b := b) |>.mpr (by omega)
    have in₂ : 0x80 ≤ c.toNat ∧ c.toNat ≤ 0xBF := by omega
    have code : ((a.toNat - 0xE0) * 64 + (b.toNat - 0x80)) * 64 + (c.toNat - 0x80) = v := by omega
    refine ⟨a, [b, c], rfl, ?_⟩
    rw [head_three (by omega), List.cons_append, gather_in_range _ in₁, List.cons_append,
      gather_tail _ in₂, code]
    rfl
  · obtain ⟨a, wa, ha⟩ := exists_byte (n := v / 262144 % 8 + 240) (by omega)
    obtain ⟨b, wb, hb⟩ := tail (v / 4096)
    obtain ⟨c, wc, hc⟩ := tail (v / 64)
    obtain ⟨d, wd, hd⟩ := tail v
    rw [wa, wb, wc, wd]
    have in₁ := second_range_iff (a := a) (b := b) |>.mpr (by omega)
    have in₂ : 0x80 ≤ c.toNat ∧ c.toNat ≤ 0xBF := by omega
    have in₃ : 0x80 ≤ d.toNat ∧ d.toNat ≤ 0xBF := by omega
    have code : (((a.toNat - 0xF0) * 64 + (b.toNat - 0x80)) * 64 + (c.toNat - 0x80)) * 64
      + (d.toNat - 0x80) = v := by omega
    refine ⟨a, [b, c, d], rfl, ?_⟩
    rw [head_four (by omega), List.cons_append, gather_in_range _ in₁, List.cons_append,
      gather_tail _ in₂, List.cons_append, gather_tail _ in₃, code]
    rfl

/-! ### Reading a stream -/

/-- The bytes that spell some characters. -/
def spell (cs : List Char) : Bytes :=
  cs.flatMap String.utf8EncodeChar

theorem encode_eq_spell (s : String) : encode s = spell s.toList := rfl

theorem spell_append (first second : List Char) :
    spell (first ++ second) = spell first ++ spell second :=
  List.flatMap_append

theorem spell_cons (c : Char) (cs : List Char) :
    spell (c :: cs) = String.utf8EncodeChar c ++ spell cs :=
  List.flatMap_cons

theorem scan_of_whole {first : UInt8} {tail later : Bytes} {c : Char}
    (whole : head first (tail ++ later) = .whole c tail.length) :
    scan (first :: (tail ++ later)) = (scan later).map (c :: ·) := by
  rw [scan, whole]
  simp

/-- Spelt characters are read back, and then what follows them. -/
theorem scan_spell_append (cs : List Char) (later : Bytes) :
    scan (spell cs ++ later) = (scan later).map (cs ++ ·) := by
  induction cs with
  | nil => simp [spell]
  | cons c cs ih =>
    obtain ⟨first, tail, spelt, whole⟩ := head_encodeChar c (spell cs ++ later)
    rw [spell_cons, spelt, List.append_assoc, List.cons_append, scan_of_whole whole, ih,
      Option.map_map]
    rfl

theorem scan_spell (cs : List Char) : scan (spell cs) = some cs := by
  have read := scan_spell_append cs []
  rw [List.append_nil, scan] at read
  simpa using read

theorem lossy_spell (cs : List Char) : lossy (spell cs) = cs := by
  induction cs with
  | nil => rw [spell, List.flatMap_nil, lossy]
  | cons c cs ih =>
    obtain ⟨first, tail, spelt, whole⟩ := head_encodeChar c (spell cs)
    rw [spell_cons, spelt, List.cons_append, lossy, whole]
    simp [ih]

/-- What is read from a stream is spelt by the bytes at its front. -/
theorem spell_prefix_of_scan {raw : Bytes} {cs : List Char} (read : scan raw = some cs) :
    spell cs <+: raw := by
  fun_induction scan raw generalizing cs with
  | case1 =>
    cases read
    exact List.nil_prefix
  | case2 first rest c more whole ih =>
    obtain ⟨ds, later, rfl⟩ := Option.map_eq_some_iff.mp read
    obtain ⟨tail, rest', spelt, rfl, rfl⟩ := spelt_of_head whole
    have spelled := ih later
    rw [List.drop_left] at spelled
    rw [spell_cons, spelt, List.cons_append]
    exact (List.prefix_cons_inj first).mpr ((List.prefix_append_right_inj tail).mpr spelled)
  | case3 first rest cut =>
    cases read
    exact List.nil_prefix
  | case4 first rest more broken surrogate =>
    cases read
    exact List.nil_prefix
  | case5 first rest more broken surrogate => cases read

/-- Bytes that begin no character are not the beginning of a surrogate after more bytes either. -/
theorem isCutSurrogate_append {first : UInt8} {rest : Bytes} {more : Nat}
    (broken : head first rest = .broken more) (other : ¬ isCutSurrogate (first :: rest) = true)
    (later : Bytes) : ¬ isCutSurrogate (first :: (rest ++ later)) = true := by
  intro surrogate
  cases rest with
  | nil =>
    have lead : first = 0xED := by
      rcases later with _ | ⟨b, _ | ⟨d, ds⟩⟩
      · cases surrogate
      · simp [isCutSurrogate] at surrogate
        exact surrogate.1.1
      · cases surrogate
    rw [lead] at broken
    cases broken
  | cons b bs =>
    cases later with
    | nil => exact other (by simpa using surrogate)
    | cons d ds => cases bs <;> cases surrogate

/-- Bytes that are no text stay none. -/
theorem scan_append_of_none {raw : Bytes} (unread : scan raw = none) (later : Bytes) :
    scan (raw ++ later) = none := by
  -- Whole characters stay as they are; the bytes that begin none stand behind them.
  fun_induction scan raw with
  | case1 => cases unread
  | case2 first rest c more whole ih =>
    obtain ⟨tail, rest', -, rfl, rfl⟩ := spelt_of_head whole
    have never := ih (Option.map_eq_none_iff.mp unread)
    rw [List.drop_left] at never
    have still := head_append (by rw [whole]; nofun) later
    rw [whole, List.append_assoc] at still
    rw [List.cons_append, List.append_assoc, scan_of_whole still, never]
    rfl
  | case3 first rest cut => cases unread
  | case4 first rest more broken surrogate => cases unread
  | case5 first rest more broken other =>
    have still := head_append (by rw [broken]; nofun) later
    rw [broken] at still
    rw [List.cons_append, scan, still]
    simp only
    rw [if_neg (isCutSurrogate_append broken other later)]

/-- What was read stays read. -/
theorem scan_append_isPrefix {raw later : Bytes} {cs ds : List Char} (before : scan raw = some cs)
    (after : scan (raw ++ later) = some ds) : cs <+: ds := by
  fun_induction scan raw generalizing cs ds with
  | case1 =>
    cases before
    exact List.nil_prefix
  | case2 first rest c more whole ih =>
    obtain ⟨tail, rest', -, rfl, rfl⟩ := spelt_of_head whole
    obtain ⟨es, read, rfl⟩ := Option.map_eq_some_iff.mp before
    rw [List.drop_left] at ih read
    have still := head_append (by rw [whole]; nofun) later
    rw [whole, List.append_assoc] at still
    rw [List.cons_append, List.append_assoc, scan_of_whole still] at after
    obtain ⟨fs, onward, rfl⟩ := Option.map_eq_some_iff.mp after
    exact (List.prefix_cons_inj c).mpr (ih read onward)
  | case3 first rest cut =>
    cases before
    exact List.nil_prefix
  | case4 first rest more broken surrogate =>
    cases before
    exact List.nil_prefix
  | case5 first rest more broken other => cases before

end AcceptanceBench.Text.Utf8
