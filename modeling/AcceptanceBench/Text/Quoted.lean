import AcceptanceBench.Text.Hex
import AcceptanceBench.Text.Printable

/-!
Quoted texts and bytes, as reports show them. The quote is the apostrophe, unless the content has
an apostrophe and no double quote. What is not printable is escaped, the shortest of three
hexadecimal forms first; bytes are marked by a leading `b`.
-/

namespace AcceptanceBench.Text.Quoted

/-- The quote for a content that has or lacks an apostrophe and a double quote. -/
def mark (apostrophe double : Bool) : Char :=
  if apostrophe && !double then '\x22' else '\x27'

/-- An escape with as many hexadecimal digits as the code point needs: two, four or eight. -/
def escapeCode (code : Nat) : List Char :=
  if code < 0x100 then '\\' :: 'x' :: Hex.fixed 2 code
  else if code < 0x10000 then '\\' :: 'u' :: Hex.fixed 4 code
  else '\\' :: 'U' :: Hex.fixed 8 code

/-- A character inside the given quotes. -/
def char (quote c : Char) : List Char :=
  if c = quote ∨ c = '\\' then ['\\', c]
  else if c = '\t' then ['\\', 't']
  else if c = '\n' then ['\\', 'n']
  else if c = '\r' then ['\\', 'r']
  else if isPrintable c then [c]
  else escapeCode c.toNat

/-- A byte inside the given quotes: an ASCII character as a text would show it, or its code. -/
def byte (quote : Char) (b : UInt8) : List Char :=
  if b.toNat < 0x80 then char quote (Char.ofNat b.toNat) else escapeCode b.toNat

/-- A quoted text, as characters. -/
def textChars (cs : List Char) : List Char :=
  let quote := mark (cs.contains '\x27') (cs.contains '\x22')
  quote :: cs.flatMap (char quote) ++ [quote]

/-- Quoted bytes, as characters. -/
def byteChars (bs : Bytes) : List Char :=
  let quote := mark (bs.contains 0x27) (bs.contains 0x22)
  'b' :: quote :: bs.flatMap (byte quote) ++ [quote]

/-- A text in quotes. -/
def text (s : String) : String :=
  String.ofList (textChars s.toList)

/-- Bytes in quotes. -/
def bytes (bs : Bytes) : String :=
  String.ofList (byteChars bs)

end AcceptanceBench.Text.Quoted
