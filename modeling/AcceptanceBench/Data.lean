import AcceptanceBench.Text.Blank
import AcceptanceBench.Text.Line
import AcceptanceBench.Text.Quoted

/-!
What a channel has received, as checks see it, and what is sent to it. Bytes that spell a text are
read as that text; any others stay bytes.
-/

namespace AcceptanceBench

/-- Data that checks compare. -/
inductive Data where
  | text (s : String)
  | bytes (b : Bytes)
  deriving Repr, DecidableEq

namespace Data

/-- The text that received characters make: line ends become line feeds, and blanks at the end are
dropped. -/
def tidy (cs : List Char) : List Char :=
  Text.dropTrailing Text.isBlank (Text.foldLines cs)

/-- Received bytes as checks see them. A character that is still arriving at the end is held back;
bytes that can never become text stay as they are. -/
def received (raw : Bytes) : Data :=
  match Text.Utf8.scan raw with
  | some cs => .text (String.ofList (tidy cs))
  | none => .bytes raw

/-- The bytes of some data, a text in UTF-8. -/
def toBytes : Data → Bytes
  | .text s => Text.Utf8.encode s
  | .bytes b => b

/-- The bytes that are sent for some data: a text with every line end as carriage return and line
feed, and bytes as they are. -/
def outbound : Data → Bytes
  | .text s => Text.Utf8.encode (String.ofList (Text.expandLines (Text.foldLines s.toList)))
  | .bytes b => b

/-- Expected data brought to the kind of the observed data. -/
def alongside (expected observed : Data) : Data :=
  match observed, expected with
  | .bytes _, .text s => .bytes (Text.Utf8.encode s)
  | .text _, .bytes b => .text (Text.Utf8.decode b)
  | _, _ => expected

/-- Data in quotes. -/
def quoted : Data → String
  | .text s => Text.Quoted.text s
  | .bytes b => Text.Quoted.bytes b

end Data

end AcceptanceBench
