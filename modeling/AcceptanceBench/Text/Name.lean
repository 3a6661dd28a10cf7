import AcceptanceBench.Text.Hex
import AcceptanceBench.Text.Name.Alias
import AcceptanceBench.Text.Name.Ancient
import AcceptanceBench.Text.Name.Eastern
import AcceptanceBench.Text.Name.Hangul
import AcceptanceBench.Text.Name.Picture
import AcceptanceBench.Text.Name.Southern
import AcceptanceBench.Text.Name.Symbol
import AcceptanceBench.Text.Name.Western

/-!
Characters by their names in Unicode 14. Names are looked up in tables, except where they follow a
rule: those of Hangul syllables spell the syllable, and those of ideographs and of some other
characters end in the code point.

A table consists of entries with semicolons or line ends between them. An entry that begins with an
at sign gives the code point, in hexadecimal, at which the next name stands; any other entry is the
name of the next code point, and begins with how many words it shares with the name before it.
-/

namespace AcceptanceBench.Text

namespace Name

/-- The entries of a table. -/
def entries (table : String) : List String :=
  (table.splitOn "\n").flatMap (·.splitOn ";")

/-- The words of a name. -/
def words (name : String) : List String :=
  if name.isEmpty then [] else name.splitOn " "

/-- The number that hexadecimal digits spell; anything else counts as a zero. -/
def hexValue (digits : List Char) : Nat :=
  digits.foldl (fun total c => total * 16 + (Hex.value? c).getD 0) 0

/-- The code point of a name among entries, where the next name stands at `code` and the name before
it has the words `before`. -/
def findEntry? (target : List String) : List String → (code : Nat) → (before : List String) →
    Option Nat
  | [], _, _ => none
  | entry :: rest, code, before =>
    match entry.toList with
    | '@' :: digits => findEntry? target rest (hexValue digits) before
    | shared :: ending =>
      let current := before.take (hexValue [shared]) ++ words (String.ofList ending)
      if current = target then some code else findEntry? target rest (code + 1) current
    | [] => findEntry? target rest code before

/-- All tables. -/
def tables : List String :=
  [western, symbols, southern, eastern, ancient, pictures, aliases]

/-- Code points from `first` to `last`. -/
structure Block where
  first : Nat
  last : Nat
  deriving Repr, DecidableEq

/-- Whether a code point is in one of some blocks. -/
def isIn (blocks : List Block) (code : Nat) : Bool :=
  blocks.any fun b => b.first ≤ code && code ≤ b.last

/-- The unified ideographs. -/
def ideographs : List Block :=
  [⟨0x3400, 0x4DBF⟩, ⟨0x4E00, 0x9FFF⟩, ⟨0x20000, 0x2A6DF⟩, ⟨0x2A700, 0x2B738⟩, ⟨0x2B740, 0x2B81D⟩,
    ⟨0x2B820, 0x2CEA1⟩, ⟨0x2CEB0, 0x2EBE0⟩, ⟨0x30000, 0x3134A⟩]

/-- Other characters whose names end in their code points, by the beginning of the name. -/
def numbered : List (String × List Block) :=
  [("CJK COMPATIBILITY IDEOGRAPH-", [⟨0xF900, 0xFA6D⟩, ⟨0xFA70, 0xFAD9⟩, ⟨0x2F800, 0x2FA1D⟩]),
    ("KHITAN SMALL SCRIPT CHARACTER-", [⟨0x18B00, 0x18CD5⟩]),
    ("NUSHU CHARACTER-", [⟨0x1B170, 0x1B2FB⟩])]

/-- The rest of some characters after a beginning. -/
def after? (beginning : String) (cs : List Char) : Option (List Char) :=
  if beginning.toList.isPrefixOf cs then some (cs.drop beginning.length) else none

/-- Whether a character is a digit or a capital that stands for a hexadecimal digit. -/
def isCapitalHex (c : Char) : Bool :=
  c.isDigit || ('A' ≤ c && c ≤ 'F')

/-- The ideograph with a code point of four or five digits. -/
def ideograph? (digits : List Char) : Option Nat :=
  let code := hexValue digits
  if (digits.length = 4 ∨ digits.length = 5) ∧ digits.all isCapitalHex ∧ isIn ideographs code then
    some code
  else none

/-- The character whose name ends in its code point, with as many digits as it needs. -/
def numbered? (name : List Char) : Option Nat :=
  numbered.findSome? fun (beginning, blocks) => do
    let digits ← after? beginning name
    let code := hexValue digits
    if digits.all isCapitalHex && digits.head? != some '0' && isIn blocks code then some code
    else none

end Name

/-- The code point of a character by its name. Capitals and small letters are the same, but in the
names of Hangul syllables and unified ideographs only capitals count. -/
def codeOfName? (name : List Char) : Option Nat :=
  match Name.after? "HANGUL SYLLABLE " name, Name.after? "CJK UNIFIED IDEOGRAPH-" name with
  | some spelling, _ => Name.syllable? spelling
  | none, some digits => Name.ideograph? digits
  | none, none =>
    let capitals := name.map Char.toUpper
    let target := Name.words (String.ofList capitals)
    (Name.numbered? capitals).or
      (Name.tables.findSome? fun table => Name.findEntry? target (Name.entries table) 0 [])

end AcceptanceBench.Text
