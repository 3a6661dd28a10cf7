import AcceptanceBench.Proofs.TimeoutReport
import Mathlib.Tactic.SplitIfs

/-!
Descriptions of mismatches are unambiguous. What stands in quotes can be read back one character
after another, and no character begins like the closing quote, so a description tells the observed
data, the operator and the expected data apart.
-/

namespace AcceptanceBench

namespace Text.Hex

/-- The number that hexadecimal digits spell, the first digit first. -/
def number (digits : List Char) : Nat :=
  digits.foldl (fun n d => 16 * n + (value? d).getD 0) 0

theorem length_fixed (places n : Nat) : (fixed places n).length = places := by
  induction places generalizing n with
  | zero => rfl
  | succ places ih => rw [fixed, List.length_append, ih, List.length_singleton]

theorem number_concat (digits : List Char) (d : Char) :
    number (digits ++ [d]) = 16 * number digits + (value? d).getD 0 :=
  List.foldl_append

/-- Digits in sufficient places spell the whole number. -/
theorem number_fixed {places n : Nat} (enough : n < Nat.pow 16 places) :
    number (fixed places n) = n := by
  have value : ∀ k < 16, (value? (digit k)).getD 0 = k := by decide
  induction places generalizing n with
  | zero =>
    obtain rfl : n = 0 := Nat.lt_one_iff.mp enough
    rfl
  | succ places ih =>
    have shorter : n / 16 < Nat.pow 16 places :=
      (Nat.div_lt_iff_lt_mul (by decide)).mpr enough
    rw [fixed, number_concat, ih shorter, value _ (Nat.mod_lt n (by decide)), Nat.div_add_mod]

end Text.Hex

namespace Text.Quoted

/-! ### Reading what stands in quotes -/

/-- The character whose code point stands in so many hexadecimal digits, and what follows them. -/
def coded (places : Nat) (cs : List Char) : Char × List Char :=
  (Char.ofNat (Hex.number (cs.take places)), cs.drop places)

/-- The first character that is spelt inside quotes, and what follows it. -/
def next? : List Char → Option (Char × List Char)
  | [] => none
  | '\\' :: 'x' :: cs => some (coded 2 cs)
  | '\\' :: 'u' :: cs => some (coded 4 cs)
  | '\\' :: 'U' :: cs => some (coded 8 cs)
  | '\\' :: 't' :: cs => some ('\t', cs)
  | '\\' :: 'n' :: cs => some ('\n', cs)
  | '\\' :: 'r' :: cs => some ('\r', cs)
  | '\\' :: c :: cs => some (c, cs)
  | c :: cs => some (c, cs)

theorem coded_fixed {places code : Nat} (enough : code < Nat.pow 16 places) (rest : List Char) :
    coded places (Hex.fixed places code ++ rest) = (Char.ofNat code, rest) := by
  have length := Hex.length_fixed places code
  rw [coded, List.take_left' length, List.drop_left' length, Hex.number_fixed enough]

theorem next?_plain {c : Char} (other : c ≠ '\\') (rest : List Char) :
    next? (c :: rest) = some (c, rest) := by
  unfold next?
  split <;> simp_all

/-- The two quotes that there are. -/
def IsMark (quote : Char) : Prop := quote = '\x27' ∨ quote = '\x22'

theorem isMark_mark (apostrophe double : Bool) : IsMark (mark apostrophe double) := by
  unfold mark
  split
  · exact Or.inr rfl
  · exact Or.inl rfl

theorem IsMark.ne_backslash {quote : Char} (quotes : IsMark quote) : '\\' ≠ quote := by
  rcases quotes with rfl | rfl
  · decide
  · decide

/-- A character is spelt inside quotes: it is read back, and does not begin like the quote that ends
them. -/
structure Spelt (quote c : Char) (cs : List Char) : Prop where
  next : ∀ rest, next? (cs ++ rest) = some (c, rest)
  begins : ∃ first rest, cs = first :: rest ∧ first ≠ quote

section Spelling

variable {quote : Char} (quotes : IsMark quote)

include quotes

theorem spelt_escape {c d : Char} (read : ∀ rest, next? ('\\' :: d :: rest) = some (c, rest)) :
    Spelt quote c ['\\', d] :=
  ⟨read, '\\', [d], rfl, quotes.ne_backslash⟩

theorem spelt_escapeCode {code : Nat} (valid : code < 0x110000) :
    Spelt quote (Char.ofNat code) (escapeCode code) := by
  unfold escapeCode
  split_ifs with short medium
  · exact ⟨fun rest => congrArg some (coded_fixed short rest), _, _, rfl, quotes.ne_backslash⟩
  · exact ⟨fun rest => congrArg some (coded_fixed medium rest), _, _, rfl, quotes.ne_backslash⟩
  · have long : code < Nat.pow 16 8 := Nat.lt_trans valid (by decide)
    exact ⟨fun rest => congrArg some (coded_fixed long rest), _, _, rfl, quotes.ne_backslash⟩

theorem spelt_char (c : Char) : Spelt quote c (char quote c) := by
  unfold char
  split_ifs with escaped tab feed carriage printed
  · refine spelt_escape quotes fun rest => ?_
    rcases escaped with rfl | rfl
    · rcases quotes with rfl | rfl
      · rfl
      · rfl
    · rfl
  · refine spelt_escape quotes fun rest => ?_
    rw [tab]
    rfl
  · refine spelt_escape quotes fun rest => ?_
    rw [feed]
    rfl
  · refine spelt_escape quotes fun rest => ?_
    rw [carriage]
    rfl
  · obtain ⟨unquoted, other⟩ := not_or.mp escaped
    exact ⟨next?_plain other, c, [], rfl, unquoted⟩
  · have coded : c.val.toNat < 0xD800 ∨ 0xDFFF < c.val.toNat ∧ c.val.toNat < 0x110000 := c.valid
    have small : c.toNat < 0x110000 := by
      unfold Char.toNat
      omega
    have spelt := spelt_escapeCode quotes small
    rwa [Char.ofNat_toNat] at spelt

/-- Bytes are spelt like the characters below 256. -/
theorem spelt_byte (b : UInt8) : Spelt quote (Char.ofNat b.toNat) (byte quote b) := by
  unfold byte
  split
  · exact spelt_char quotes _
  · have small := b.toNat_lt
    exact spelt_escapeCode quotes (by omega)

end Spelling

/-! ### Where quotes end -/

/-- Where the quote ends is determined, and what stands before it, if every item is spelt as a
character of its own. -/
theorem flatMap_append_inj {α : Type} {quote : Char} {spell : α → List Char} {value : α → Char}
    (spelt : ∀ a, Spelt quote (value a) (spell a)) (distinct : Function.Injective value)
    {items items' : List α} {rest rest' : List Char}
    (same : items.flatMap spell ++ quote :: rest = items'.flatMap spell ++ quote :: rest') :
    items = items' ∧ rest = rest' := by
  have apart (a : α) (others : List α) (rest rest' : List Char) :
      quote :: rest ≠ (a :: others).flatMap spell ++ rest' := by
    obtain ⟨first, others', begins, other⟩ := (spelt a).begins
    rw [List.flatMap_cons, begins]
    exact fun same => other (List.cons.inj same).1.symm
  induction items generalizing items' with
  | nil =>
    cases items' with
    | nil => exact ⟨rfl, (List.cons.inj same).2⟩
    | cons a others => exact absurd same (apart a others _ _)
  | cons a items ih =>
    cases items' with
    | nil => exact absurd same.symm (apart a items _ _)
    | cons b others =>
      rw [List.flatMap_cons, List.flatMap_cons, List.append_assoc, List.append_assoc] at same
      have read := congrArg next? same
      rw [(spelt a).next, (spelt b).next, Option.some.injEq, Prod.mk.injEq] at read
      obtain ⟨rfl, rfl⟩ := ih read.2
      exact ⟨by rw [distinct read.1], rfl⟩

/-- A quoted text ends where its quotes do. -/
theorem textChars_append_inj {cs cs' rest rest' : List Char}
    (same : textChars cs ++ rest = textChars cs' ++ rest') : cs = cs' ∧ rest = rest' := by
  unfold textChars at same
  simp only [List.cons_append, List.append_assoc, List.nil_append, List.cons.injEq] at same
  obtain ⟨quotes, same⟩ := same
  rw [quotes] at same
  exact flatMap_append_inj (spelt_char (isMark_mark _ _)) Function.injective_id same

theorem byteChars_append_inj {bs bs' : Bytes} {rest rest' : List Char}
    (same : byteChars bs ++ rest = byteChars bs' ++ rest') : bs = bs' ∧ rest = rest' := by
  unfold byteChars at same
  simp only [List.cons_append, List.append_assoc, List.nil_append, List.cons.injEq,
    true_and] at same
  obtain ⟨quotes, same⟩ := same
  rw [quotes] at same
  exact flatMap_append_inj (spelt_byte (isMark_mark _ _)) byteChar_injective same

/-- A quoted text does not begin like quoted bytes. -/
theorem textChars_append_ne (cs : List Char) (bs : Bytes) (rest rest' : List Char) :
    textChars cs ++ rest ≠ byteChars bs ++ rest' := by
  intro same
  have first := (List.cons.inj same).1
  rcases isMark_mark (cs.contains '\x27') (cs.contains '\x22') with mark | mark
  · rw [mark] at first
    exact absurd first (by decide)
  · rw [mark] at first
    exact absurd first (by decide)

end Text.Quoted

/-! ### Descriptions -/

open Text.Quoted

theorem Data.toList_quoted_text (s : String) :
    (Data.text s).quoted.toList = textChars s.toList :=
  String.toList_ofList

theorem Data.toList_quoted_bytes (b : Bytes) : (Data.bytes b).quoted.toList = byteChars b :=
  String.toList_ofList

/-- Quoted data shows whether it is a text or bytes, what it is and where it ends. -/
theorem Data.quoted_append_inj {d d' : Data} {rest rest' : List Char}
    (same : d.quoted.toList ++ rest = d'.quoted.toList ++ rest') : d = d' ∧ rest = rest' := by
  cases d with
  | text s =>
    cases d' with
    | text s' =>
      rw [toList_quoted_text, toList_quoted_text] at same
      obtain ⟨chars, rests⟩ := textChars_append_inj same
      exact ⟨congrArg text (String.toList_inj.mp chars), rests⟩
    | bytes b =>
      rw [toList_quoted_text, toList_quoted_bytes] at same
      exact absurd same (textChars_append_ne s.toList b rest rest')
  | bytes b =>
    cases d' with
    | text s =>
      rw [toList_quoted_text, toList_quoted_bytes] at same
      exact absurd same.symm (textChars_append_ne s.toList b rest' rest)
    | bytes b' =>
      rw [toList_quoted_bytes, toList_quoted_bytes] at same
      exact (byteChars_append_inj same).imp_left (congrArg bytes)

theorem Data.quoted_inj {d d' : Data} (same : d.quoted.toList = d'.quoted.toList) : d = d' :=
  (quoted_append_inj (congrArg (· ++ []) same)).1

/-- Each operator's name begins with a letter of its own. -/
theorem Operator.head?_name_inj {operator operator' : Operator}
    (same : operator.name.toList.head? = operator'.name.toList.head?) : operator = operator' := by
  revert same
  cases operator <;> cases operator' <;> decide

/-- An operator's name ends where the expected data begins, although a name may hold a blank. -/
theorem Operator.name_append_inj {operator operator' : Operator} {rest rest' : List Char}
    (same : operator.name.toList ++ rest = operator'.name.toList ++ rest') :
    operator = operator' ∧ rest = rest' := by
  have begins (operator : Operator) (rest : List Char) :
      (operator.name.toList ++ rest).head? = operator.name.toList.head? := by
    cases operator <;> rfl
  have head := congrArg List.head? same
  rw [begins, begins] at head
  obtain rfl := head?_name_inj head
  exact ⟨rfl, List.append_cancel_left same⟩

/-- The mismatch of a failed comparison names an operator and has no message of its own. -/
theorem mismatch_of_compare {observed expected : Data} {given : Argument} {m : Mismatch}
    (failed : compare observed expected given = .ok (.fails m)) :
    m.message = "" ∧ ∃ operator : Operator, m.operator = operator.name := by
  rcases compare_cases observed expected given with ⟨e, same, -⟩ | same | ⟨operator, -, same⟩
  · cases same.symm.trans failed
  · cases same.symm.trans failed
  · cases same.symm.trans failed
    exact ⟨rfl, operator, rfl⟩

theorem Mismatch.toList_describe {m : Mismatch} (bare : m.message = "") :
    m.describe.toList = "expected ".toList ++ (m.observed.quoted.toList ++ (" to ".toList
      ++ (m.operator.toList ++ (" ".toList ++ m.expected.quoted.toList)))) := by
  simp only [describe, if_pos bare, String.toList_append, List.append_assoc]

/-- Whatever was compared and by whatever operators, two comparisons that fail are described alike
only if the operators are the same and the observed and the expected data are the same, of the same
kind. -/
theorem describe_eq_iff_of_compare {observed expected observed' expected' : Data}
    {given given' : Argument} {m m' : Mismatch}
    (failed : compare observed expected given = .ok (.fails m))
    (failed' : compare observed' expected' given' = .ok (.fails m')) :
    m.describe = m'.describe
      ↔ m.operator = m'.operator ∧ m.observed = m'.observed ∧ m.expected = m'.expected := by
  obtain ⟨bare, operator, named⟩ := mismatch_of_compare failed
  obtain ⟨bare', operator', named'⟩ := mismatch_of_compare failed'
  constructor
  · intro same
    have chars := String.toList_inj.mpr same
    rw [Mismatch.toList_describe bare, Mismatch.toList_describe bare', named, named'] at chars
    obtain ⟨sameObserved, rest⟩ := Data.quoted_append_inj (List.append_cancel_left chars)
    obtain ⟨rfl, last⟩ := Operator.name_append_inj (List.append_cancel_left rest)
    exact ⟨named.trans named'.symm, sameObserved, Data.quoted_inj (List.append_cancel_left last)⟩
  · rintro ⟨sameOperator, sameObserved, sameExpected⟩
    rw [Mismatch.describe, Mismatch.describe, if_pos bare, if_pos bare', sameOperator, sameObserved,
      sameExpected]

/-- An observed text that looks like a description is told apart from one. -/
theorem describe_ne_of_inner_quotes :
    let m : Mismatch := ⟨"be", .text "c", .text "a' to be 'b", ""⟩
    let m' : Mismatch := ⟨"be", .text "b' to be 'c", .text "a", ""⟩
    compare (.text "a' to be 'b") (.bytes [99]) (.text "equals") = .ok (.fails m)
      ∧ compare (.text "a") (.text "b' to be 'c") (.text "be") = .ok (.fails m')
      ∧ m.describe ≠ m'.describe := by
  intro m m'
  have failed : compare (.text "a' to be 'b") (.bytes [99]) (.text "equals") = .ok (.fails m) := by
    decide +kernel
  have failed' : compare (.text "a") (.text "b' to be 'c") (.text "be") = .ok (.fails m') := by
    decide +kernel
  refine ⟨failed, failed', fun same => ?_⟩
  have told := (describe_eq_iff_of_compare failed failed').mp same
  exact absurd told.2.1 (by decide)

end AcceptanceBench
