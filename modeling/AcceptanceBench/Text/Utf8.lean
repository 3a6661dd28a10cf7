/-!
Reading bytes as UTF-8. `head` looks at the bytes that begin a list and tells a whole character from
one that is cut off by the end of the bytes and from bytes that begin none. `scan` reads a stream
whose end may still be arriving, `lossy` a finished one.
-/

namespace AcceptanceBench

/-- Bytes as a device sends them. -/
abbrev Bytes := List UInt8

namespace Text.Utf8

/-- What stands at the front of some bytes. `more` counts the bytes after the first that belong to
it. -/
inductive Head where
  | whole (c : Char) (more : Nat)
  | cut
  | broken (more : Nat)
  deriving Repr, DecidableEq

/-- Reads `missing` further bytes of a character, the first of them from `low` to `high`; `code` are
the bits read so far and `more` the bytes they took. -/
def gather : (missing code more : Nat) → (low high : UInt8) → Bytes → Head
  | 0, code, more, _, _, _ => .whole (Char.ofNat code) more
  | _ + 1, _, _, _, _, [] => .cut
  | missing + 1, code, more, low, high, b :: rest =>
    if low ≤ b ∧ b ≤ high then
      gather missing (code * 64 + (b.toNat - 0x80)) (more + 1) 0x80 0xBF rest
    else .broken more

/-- Reads the front of the bytes `first :: rest`. Overlong forms, surrogates and code points above
U+10FFFF are excluded by the range of the second byte. -/
def head (first : UInt8) (rest : Bytes) : Head :=
  let n := first.toNat
  if n < 0x80 then .whole (Char.ofNat n) 0
  else if n < 0xC2 then .broken 0
  else if n < 0xE0 then gather 1 (n - 0xC0) 0 0x80 0xBF rest
  else if n = 0xE0 then gather 2 0 0 0xA0 0xBF rest
  else if n = 0xED then gather 2 0xD 0 0x80 0x9F rest
  else if n < 0xF0 then gather 2 (n - 0xE0) 0 0x80 0xBF rest
  else if n = 0xF0 then gather 3 0 0 0x90 0xBF rest
  else if n < 0xF4 then gather 3 (n - 0xF0) 0 0x80 0xBF rest
  else if n = 0xF4 then gather 3 4 0 0x80 0x8F rest
  else .broken 0

/-- Whether the bytes are exactly the two that begin a surrogate. -/
def isCutSurrogate : Bytes → Bool
  | [a, b] => a == 0xED && 0xA0 ≤ b && b ≤ 0xBF
  | _ => false

/-- The characters of a stream whose last one may still be arriving, or `none` if some bytes begin
no character. What begins a character at the very end is held back, and so are the first two bytes
of a surrogate there: only the third shows that they are no text. -/
def scan : Bytes → Option (List Char)
  | [] => some []
  | first :: rest =>
    match head first rest with
    | .whole c more => (scan (rest.drop more)).map (c :: ·)
    | .cut => some []
    | .broken _ => if isCutSurrogate (first :: rest) then some [] else none
termination_by bytes => bytes.length
decreasing_by simp only [List.length_drop, List.length_cons]; omega

/-- The characters of finished bytes, with one replacement character for each longest run of bytes
that begins a character without ending it, and for each byte that begins none. -/
def lossy : Bytes → List Char
  | [] => []
  | first :: rest =>
    match head first rest with
    | .whole c more => c :: lossy (rest.drop more)
    | .cut => ['\uFFFD']
    | .broken more => '\uFFFD' :: lossy (rest.drop more)
termination_by bytes => bytes.length
decreasing_by all_goals (simp only [List.length_drop, List.length_cons]; omega)

/-- The bytes that spell a text. -/
def encode (s : String) : Bytes :=
  s.toList.flatMap String.utf8EncodeChar

/-- The text that finished bytes spell, as far as they spell one. -/
def decode (bytes : Bytes) : String :=
  String.ofList (lossy bytes)

end Text.Utf8

end AcceptanceBench
