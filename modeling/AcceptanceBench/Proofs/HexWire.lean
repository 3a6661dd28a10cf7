import AcceptanceBench.Usb
import Mathlib

/-!
The hexadecimal wire of USB requests. A reply is read exactly if it spells bytes in digits of either
case, with blanks wherever one likes; and the arguments of a request determine it.
-/

namespace AcceptanceBench

namespace Text.Hex

/-- The ASCII digits, of either case. -/
def allDigits : List Char := "0123456789abcdefABCDEF".toList

/-- Whether a character is a digit in lower case, or the same in upper case. -/
def SameDigit (d c : Char) : Prop := c = d ∨ c = d.toUpper

/-- Characters that spell digits: each in either case, with blanks anywhere among them. -/
inductive Loose : List Char → List Char → Prop
  | done : Loose [] []
  | blank {c : Char} {ds cs : List Char} (h : isBlank c = true) (rest : Loose ds cs) :
      Loose ds (c :: cs)
  | digit {d c : Char} {ds cs : List Char} (h : SameDigit d c) (rest : Loose ds cs) :
      Loose (d :: ds) (c :: cs)

/-! ### One digit -/

theorem value?_of_sameDigit {n : Nat} (small : n < 16) {c : Char} (same : SameDigit (digit n) c) :
    value? c = some n := by
  have values : ∀ n < 16, value? (digit n) = some n ∧ value? (digit n).toUpper = some n := by
    decide
  rcases same with rfl | rfl
  · exact (values n small).1
  · exact (values n small).2

theorem sameDigit_of_value? {c : Char} {n : Nat} (value : value? c = some n) :
    n < 16 ∧ SameDigit (digit n) c := by
  have upper : ∀ n < 16, 10 ≤ n → (digit n).toUpper = Char.ofNat (55 + n) := by decide
  unfold value? at value
  dsimp only at value
  split at value
  · next range =>
    cases value
    refine ⟨by omega, Or.inl ?_⟩
    rw [digit, if_pos (by omega), Nat.add_sub_cancel' range.1, Char.ofNat_toNat]
  · split at value
    · next range =>
      cases value
      refine ⟨by omega, Or.inl ?_⟩
      rw [digit, if_neg (by omega), Nat.add_sub_cancel' (by omega), Char.ofNat_toNat]
    · split at value
      · next range =>
        cases value
        refine ⟨by omega, Or.inr ?_⟩
        rw [upper _ (by omega) (by omega), Nat.add_sub_cancel' (by omega), Char.ofNat_toNat]
      · cases value

theorem exists_value?_iff {c : Char} : (∃ n, value? c = some n) ↔ c ∈ allDigits := by
  constructor
  · rintro ⟨n, value⟩
    have all : ∀ n < 16, digit n ∈ allDigits ∧ (digit n).toUpper ∈ allDigits := by decide
    obtain ⟨small, rfl | rfl⟩ := sameDigit_of_value? value
    · exact (all n small).1
    · exact (all n small).2
  · have all : allDigits.all (fun c => (value? c).isSome) = true := by decide
    exact fun there => Option.isSome_iff_exists.mp (List.all_eq_true.mp all c there)

/-! ### Pairs of digits -/

theorem digits_cons (b : UInt8) (bytes : Bytes) :
    digits (b :: bytes) = digit (b.toNat / 16) :: digit (b.toNat % 16) :: digits bytes :=
  rfl

/-- Each digit of some bytes is that of a value below sixteen. -/
theorem exists_of_mem_digits {bytes : Bytes} {d : Char} (there : d ∈ digits bytes) :
    ∃ n < 16, d = digit n := by
  obtain ⟨b, -, there⟩ := List.mem_flatMap.mp there
  have below := b.toNat_lt
  simp only [List.mem_cons, List.not_mem_nil, or_false] at there
  rcases there with rfl | rfl
  · exact ⟨_, by omega, rfl⟩
  · exact ⟨_, by omega, rfl⟩

/-- What reading a first pair of digits takes and gives. -/
theorem read?_pair_eq_some_iff {a b : Char} {rest : List Char} {bytes : Bytes} :
    read? (a :: b :: rest) = some bytes ↔
      ∃ high low read, value? a = some high ∧ value? b = some low ∧ read? rest = some read ∧
        UInt8.ofNat (16 * high + low) :: read = bytes := by
  simp only [read?, Option.bind_eq_bind, Option.bind_eq_some_iff, Option.pure_def,
    Option.some.injEq]
  constructor
  · rintro ⟨high, highReads, low, lowReads, read, rest, pair⟩
    exact ⟨high, low, read, highReads, lowReads, rest, pair⟩
  · rintro ⟨high, low, read, highReads, lowReads, rest, pair⟩
    exact ⟨high, highReads, low, lowReads, read, rest, pair⟩

/-- Reading gives some bytes exactly if the characters are their digits, in either case. -/
theorem read?_eq_some_iff {cs : List Char} {bytes : Bytes} :
    read? cs = some bytes ↔ List.Forall₂ SameDigit (digits bytes) cs := by
  induction cs using read?.induct generalizing bytes with
  | case1 =>
    cases bytes with
    | nil => simp [read?, digits]
    | cons b bytes => simp [read?, digits_cons]
  | case2 a b rest ih =>
    rw [read?_pair_eq_some_iff]
    constructor
    · rintro ⟨high, low, read, highReads, lowReads, rest, rfl⟩
      obtain ⟨highSmall, highSame⟩ := sameDigit_of_value? highReads
      obtain ⟨lowSmall, lowSame⟩ := sameDigit_of_value? lowReads
      have value : (UInt8.ofNat (16 * high + low)).toNat = 16 * high + low :=
        UInt8.toNat_ofNat_of_lt' (by simp only [UInt8.size]; omega)
      rw [digits_cons, value, show (16 * high + low) / 16 = high by omega,
        show (16 * high + low) % 16 = low by omega]
      exact .cons highSame (.cons lowSame (ih.mp rest))
    · intro same
      cases bytes with
      | nil => cases same
      | cons byte bytes =>
        have below := byte.toNat_lt
        rw [digits_cons, List.forall₂_cons, List.forall₂_cons] at same
        obtain ⟨highSame, lowSame, rest⟩ := same
        refine ⟨_, _, bytes, value?_of_sameDigit (by omega) highSame,
          value?_of_sameDigit (by omega) lowSame, ih.mpr rest, ?_⟩
        rw [Nat.div_add_mod, UInt8.ofNat_toNat]
  | case3 a =>
    cases bytes with
    | nil => simp [read?, digits]
    | cons b bytes => simp [read?, digits_cons]

/-- Reading what was spelt gives it back. -/
theorem read?_digits (bytes : Bytes) : read? (digits bytes) = some bytes :=
  read?_eq_some_iff.mpr (List.forall₂_same.mpr fun _ _ => Or.inl rfl)

/-- Something is read exactly from an even number of digits. -/
theorem exists_read?_iff {cs : List Char} :
    (∃ bytes, read? cs = some bytes) ↔ cs.length % 2 = 0 ∧ ∀ c ∈ cs, c ∈ allDigits := by
  induction cs using read?.induct with
  | case1 => simp [read?]
  | case2 a b rest ih =>
    have even : (a :: b :: rest).length % 2 = rest.length % 2 := Nat.add_mod_right rest.length 2
    rw [even, List.forall_mem_cons, List.forall_mem_cons, ← exists_value?_iff,
      ← exists_value?_iff]
    constructor
    · rintro ⟨bytes, reads⟩
      obtain ⟨high, low, read, highReads, lowReads, rest, -⟩ := read?_pair_eq_some_iff.mp reads
      obtain ⟨evenRest, digits⟩ := ih.mp ⟨read, rest⟩
      exact ⟨evenRest, ⟨high, highReads⟩, ⟨low, lowReads⟩, digits⟩
    · rintro ⟨evenRest, ⟨high, highReads⟩, ⟨low, lowReads⟩, digits⟩
      obtain ⟨read, rest⟩ := ih.mpr ⟨evenRest, digits⟩
      exact ⟨_, read?_pair_eq_some_iff.mpr ⟨high, low, read, highReads, lowReads, rest, rfl⟩⟩
  | case3 a => simp [read?]

/-! ### Blanks among the digits -/

/-- A digit is not blank, in either case. -/
theorem isBlank_of_sameDigit {n : Nat} (small : n < 16) {c : Char} (same : SameDigit (digit n) c) :
    isBlank c = false := by
  have all : ∀ n < 16, isBlank (digit n) = false ∧ isBlank (digit n).toUpper = false := by decide
  rcases same with rfl | rfl
  · exact (all n small).1
  · exact (all n small).2

/-- Characters spell digits loosely exactly if those that are not blank are the digits. -/
theorem loose_iff {ds cs : List Char} (areDigits : ∀ d ∈ ds, ∃ n < 16, d = digit n) :
    Loose ds cs ↔ List.Forall₂ SameDigit ds (cs.filter fun c => !isBlank c) := by
  constructor
  · intro loose
    induction loose with
    | done => exact .nil
    | blank h _ ih =>
      rw [List.filter_cons_of_neg (by simp [h])]
      exact ih areDigits
    | digit h _ ih =>
      obtain ⟨⟨n, small, rfl⟩, others⟩ := List.forall_mem_cons.mp areDigits
      rw [List.filter_cons_of_pos (by simp [isBlank_of_sameDigit small h])]
      exact .cons h (ih others)
  · induction cs generalizing ds with
    | nil =>
      intro same
      cases same
      exact .done
    | cons c cs ih =>
      cases blank : isBlank c with
      | true =>
        rw [List.filter_cons_of_neg (by simp [blank])]
        exact fun same => .blank blank (ih areDigits same)
      | false =>
        rw [List.filter_cons_of_pos (by simp [blank])]
        rintro (_ | ⟨h, same⟩)
        exact .digit h (ih (List.forall_mem_cons.mp areDigits).2 same)

end Text.Hex

/-! ### Numbers as arguments -/

/-- A number is written with a sign and decimal digits. -/
theorem mem_toString_int {n : Int} {c : Char} (there : c ∈ (toString n).toList) :
    c = '-' ∨ c.isDigit = true := by
  have ofNat : ∀ m : Nat, c ∈ m.repr.toList → c.isDigit = true := by
    intro m there
    rw [Nat.repr, String.toList_ofList] at there
    exact Nat.isDigit_of_mem_toDigits (b := 10) (by decide) (by decide) there
  cases n with
  | ofNat m => exact Or.inr (ofNat m there)
  | negSucc m =>
    have split : (toString (Int.negSucc m)).toList = '-' :: (m + 1).repr.toList :=
      String.toList_append
    rw [split, List.mem_cons] at there
    exact there.imp_right (ofNat (m + 1))

/-- Different whole numbers are written differently, and none like a flag. -/
theorem Whole.literal_injective : Function.Injective Whole.literal := by
  have apart : ∀ (n : Int) (b : Bool), Whole.literal (.number n) ≠ Whole.literal (.flag b) := by
    intro n b same
    have letter : 'e' ∈ (Whole.literal (.flag b)).toList := by cases b <;> decide
    rw [← same] at letter
    rcases mem_toString_int letter with sign | digit
    · exact absurd sign (by decide)
    · exact absurd digit (by decide)
  rintro (n | a) (m | b) same
  · exact congrArg Whole.number (Int.repr_injective same)
  · exact absurd same (apart n b)
  · exact absurd same.symm (apart m a)
  · revert same
    cases a <;> cases b <;> decide

/-! ### Requests and replies -/

open Text.Hex

/-- Different bytes are spelt differently. -/
theorem Text.Hex.spell_injective : Function.Injective spell := by
  intro a b same
  have read := read?_digits b
  rw [← String.ofList_injective same, read?_digits] at read
  exact Option.some.inj read

namespace UsbRequest

/-- The arguments of a request determine all of it. -/
theorem arguments_injective (command : String) : Function.Injective (arguments command) := by
  rintro ⟨request, value, index, out, payload⟩ ⟨request', value', index', out', payload'⟩ same
  have parts : request.literal = request'.literal ∧ value.literal = value'.literal ∧
      index.literal = index'.literal ∧ out = out' ∧ spell payload = spell payload' := by
    cases out <;> cases out' <;> simp [arguments] at same ⊢ <;> exact same
  obtain ⟨requests, values, indices, rfl, payloads⟩ := parts
  rw [Whole.literal_injective requests, Whole.literal_injective values,
    Whole.literal_injective indices, spell_injective payloads]

/-- The last argument of a request spells its payload. -/
theorem getLast?_arguments (command : String) (r : UsbRequest) :
    (r.arguments command).getLast? = some (spell r.payload) := by
  rw [arguments, List.getLast?_append]
  rfl

/-- A reply is some bytes exactly if it spells them, in digits of either case with blanks among
them. -/
theorem reply_eq_ok_iff {r : UsbRequest} {text : String} {bytes : Bytes} :
    r.reply text = .ok bytes ↔ Loose (digits bytes) text.toList := by
  rw [loose_iff fun _ => exists_of_mem_digits, ← read?_eq_some_iff, reply, Text.squeeze]
  cases read? (text.toList.filter fun c => !Text.isBlank c) with
  | none => simp
  | some read => simp

end UsbRequest

/-- Whether a text is an even number of digits when its blanks are left out. -/
def IsHexText (text : String) : Prop :=
  (Text.squeeze text).length % 2 = 0 ∧ ∀ c ∈ Text.squeeze text, c ∈ allDigits

instance (text : String) : Decidable (IsHexText text) :=
  have : Decidable (∀ c ∈ Text.squeeze text, c ∈ allDigits) := List.decidableBAll _ _
  inferInstanceAs (Decidable (_ ∧ _))

namespace UsbRequest

/-- A text is a reply exactly if it is hexadecimal. -/
theorem exists_reply_iff {r : UsbRequest} {text : String} :
    (∃ bytes, r.reply text = .ok bytes) ↔ IsHexText text := by
  rw [IsHexText, ← exists_read?_iff, reply]
  cases read? (Text.squeeze text) with
  | none => simp
  | some read => simp

/-- Any other text is refused, and the error quotes it. -/
theorem reply_of_not_isHexText {r : UsbRequest} {text : String} (other : ¬ IsHexText text) :
    r.reply text = .error (.badReply r.context text) := by
  rw [IsHexText, ← exists_read?_iff, ← Option.isSome_iff_exists, Option.not_isSome_iff_eq_none]
    at other
  rw [reply, other]

end UsbRequest

namespace UsbChannel

variable {u : UsbChannel} {r : UsbRequest} {tool : ToolOutcome} {text : String}

/-- A tool that fails is an error and changes nothing. -/
theorem send_of_error {e : Error} (fails : u.output r tool = .error e) :
    u.send r tool = (.error e, u) := by
  rw [send, fails]

/-- A reply that can be read is returned and kept. -/
theorem send_of_reply {bytes : Bytes} (answers : u.output r tool = .ok text)
    (reads : r.reply text = .ok bytes) :
    u.send r tool = (.ok bytes, { u with reply := some bytes }) := by
  rw [send, answers]
  simp only [reads]

/-- A reply that cannot be read is an error and changes nothing. -/
theorem send_of_badReply (answers : u.output r tool = .ok text) (other : ¬ IsHexText text) :
    u.send r tool = (.error (.badReply r.context text), u) := by
  rw [send, answers]
  simp only [UsbRequest.reply_of_not_isHexText other]

/-- A request returns the bytes that the text spells. -/
theorem send_eq_ok_iff {bytes : Bytes} (answers : u.output r tool = .ok text) :
    (u.send r tool).1 = .ok bytes ↔ Loose (digits bytes) text.toList := by
  rw [← UsbRequest.reply_eq_ok_iff (r := r), send, answers]
  cases reads : r.reply text with
  | error e => simp [reads]
  | ok read => simp [reads]

/-- The wire loses nothing, either way. An output that spells bytes, in digits of either case with
blanks anywhere, is returned and kept as these bytes; no other output is returned as them. An output
is accepted exactly if it is an even number of digits apart from blanks, and any other is a
transport error. The arguments of a request determine the request, and the last of them its
payload. -/
theorem hex_wire_exact :
    (∀ (u : UsbChannel) (r : UsbRequest) (tool : ToolOutcome) (text : String),
      u.output r tool = .ok text →
        (∀ bytes, Loose (digits bytes) text.toList →
          u.send r tool = (.ok bytes, { u with reply := some bytes })) ∧
        (∀ bytes, (u.send r tool).1 = .ok bytes → Loose (digits bytes) text.toList) ∧
        ((∃ bytes, (u.send r tool).1 = .ok bytes) ↔ IsHexText text) ∧
        (¬ IsHexText text → ∃ e, u.send r tool = (.error e, u) ∧ e.name = "TransportError")) ∧
    ∀ command : String, Function.Injective (UsbRequest.arguments command) ∧
      ∀ r : UsbRequest, ∃ last, (r.arguments command).getLast? = some last ∧
        read? last.toList = some r.payload := by
  refine ⟨fun u r tool text answers => ⟨?_, ?_, ?_, ?_⟩, fun command => ⟨?_, fun r => ?_⟩⟩
  · intro bytes loose
    exact send_of_reply answers (UsbRequest.reply_eq_ok_iff.mpr loose)
  · exact fun bytes => (send_eq_ok_iff answers).mp
  · simp only [send_eq_ok_iff answers, ← UsbRequest.reply_eq_ok_iff (r := r)]
    exact UsbRequest.exists_reply_iff
  · exact fun other => ⟨_, send_of_badReply answers other, rfl⟩
  · exact UsbRequest.arguments_injective command
  · exact ⟨_, UsbRequest.getLast?_arguments command r, by
      rw [spell, String.toList_ofList, read?_digits]⟩

/-- A request that writes one byte. -/
def writing (value : Int) : UsbRequest := ⟨80, .number value, 60, true, [0xC0]⟩

/-- A thin space within a byte and digits of both cases, and an output in the digits of another
script. -/
theorem hex_wire_exact_thin_space :
    (make usualCommand .scripted).send (writing (-1)) ⟨.quiet, .ok "A\u2009b 0F\n"⟩
        = (.ok [0xAB, 0x0F], ⟨usualCommand, .scripted, some [0xAB, 0x0F]⟩) ∧
      (∃ e, (make usualCommand .scripted).send (writing (-1)) ⟨.quiet, .ok "٤٢"⟩
        = (.error e, make usualCommand .scripted) ∧ e.name = "TransportError") ∧
      (writing (-1)).arguments usualCommand ≠ (writing 1).arguments usualCommand := by
  have loose : Loose (digits [0xAB, 0x0F]) "A\u2009b 0F\n".toList :=
    .digit (Or.inr rfl) (.blank rfl (.digit (Or.inl rfl) (.blank rfl (.digit (Or.inl rfl)
      (.digit (Or.inr rfl) (.blank rfl .done))))))
  have other : writing (-1) ≠ writing 1 := by decide
  exact ⟨(hex_wire_exact.1 _ _ _ _ rfl).1 _ loose, (hex_wire_exact.1 _ _ _ _ rfl).2.2.2 (by decide),
    fun same => other ((hex_wire_exact.2 usualCommand).1 same)⟩

end UsbChannel

end AcceptanceBench
