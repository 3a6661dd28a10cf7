/-!
Patterns as trees. A pattern is over code points: those of a text, or the values of bytes. Switches
change how a part of a pattern is read or matched.
-/

namespace AcceptanceBench

namespace Pattern

/-- A switch, given at the front of a pattern or for a part of it. The first three choose what
counts as a letter, and exclude each other. -/
inductive Switch where
  | ascii
  | locale
  | unicode
  | ignoreCase
  | multiline
  | dotAll
  | verbose
  | template
  deriving Repr, DecidableEq

/-- The switches that are on. -/
abbrev Switches := List Switch

namespace Switch

/-- Whether the switch chooses what counts as a letter. -/
def choosesLetters : Switch → Bool
  | .ascii | .locale | .unicode => true
  | _ => false

/-- The switch that a letter stands for. -/
def ofChar? : Char → Option Switch
  | 'a' => some .ascii
  | 'L' => some .locale
  | 'u' => some .unicode
  | 'i' => some .ignoreCase
  | 'm' => some .multiline
  | 's' => some .dotAll
  | 'x' => some .verbose
  | 't' => some .template
  | _ => none

/-- The switches inside a group that turns some on and some off. What counts as a letter is chosen
anew if the group chooses it. -/
def adjust (now on off : Switches) : Switches :=
  let kept := if on.any choosesLetters then now.filter (!·.choosesLetters) else now
  (kept ++ on).filter fun switch => !off.contains switch

end Switch

/-- A named kind of character. -/
inductive Kind where
  | digit
  | space
  | word
  deriving Repr, DecidableEq

/-- One entry of a character set. -/
inductive Member where
  | char (code : Nat)
  | range (low high : Nat)
  | kind (kind : Kind) (holds : Bool)
  deriving Repr, DecidableEq

/-- A condition on a place between two characters. -/
inductive Place where
  | lineStart
  | lineEnd
  | textStart
  | textEnd
  | boundary
  | noBoundary
  deriving Repr, DecidableEq

/-- How often a repetition goes on: as often as it can, as seldom as it can, or as often as it can
without ever giving a round back. -/
inductive Greed where
  | greedy
  | lazy
  | possessive
  deriving Repr, DecidableEq

/-- A pattern. Groups are numbered from 1 in the order of their opening parentheses. What looks back
does so by a fixed count of characters; `none` if its body has no fixed width. -/
inductive Expression where
  | empty
  | char (code : Nat)
  | otherChar (code : Nat)
  | any
  | set (holds : Bool) (members : List Member)
  | place (place : Place)
  | sequence (first rest : Expression)
  | either (first second : Expression)
  | repetition (greed : Greed) (least : Nat) (most : Option Nat) (body : Expression)
  | group (number : Nat) (body : Expression)
  | part (on off : Switches) (body : Expression)
  | atomic (body : Expression)
  | ahead (holds : Bool) (body : Expression)
  | behind (back : Option Nat) (holds : Bool) (body : Expression)
  | reference (number : Nat)
  | condition (number : Nat) (yes no : Expression)
  deriving Repr, DecidableEq

/-- The least and the greatest count of characters that a pattern takes; `none` if there is no
greatest. -/
structure Width where
  least : Nat
  most : Option Nat
  deriving Repr, DecidableEq

namespace Width

/-- The width of nothing. -/
def zero : Width := ⟨0, some 0⟩

/-- The width of one character. -/
def one : Width := ⟨1, some 1⟩

/-- The width of one part after another. -/
def add (a b : Width) : Width :=
  ⟨a.least + b.least, do return (← a.most) + (← b.most)⟩

/-- The width of either of two parts. -/
def join (a b : Width) : Width :=
  ⟨min a.least b.least, do return max (← a.most) (← b.most)⟩

/-- The greatest width of up to `count` rounds. -/
def mostOf (most count : Option Nat) : Option Nat :=
  match most, count with
  | some 0, _ => some 0
  | _, some 0 => some 0
  | some m, some n => some (m * n)
  | _, _ => none

/-- The width of a repetition. -/
def times (w : Width) (least : Nat) (most : Option Nat) : Width :=
  ⟨w.least * least, mostOf w.most most⟩

/-- From here on the greatest counts are not told apart; least counts stay below it. -/
def limit : Nat := 4294967295

/-- The least width, as far as it is told. -/
def atLeast (w : Width) : Nat := min w.least (limit - 1)

/-- The single width, if there is only one as far as widths are told apart. -/
def fixed? (w : Width) : Option Nat :=
  if min (w.most.getD limit) limit = w.atLeast then some w.atLeast else none

end Width

/-- The distance at which looking back is no longer possible. -/
def reachLimit : Nat := 2147483648

namespace Expression

/-- The parts of a pattern that come one after another. -/
def items : Expression → List Expression
  | .empty => []
  | .sequence a b => a.items ++ b.items
  | e => [e]

/-- The parts of a list, one after another. -/
def ofList : List Expression → Expression
  | [] => .empty
  | [e] => e
  | e :: rest => .sequence e (ofList rest)

/-- The alternatives of a list, the first one first. -/
def ofAlternatives : List Expression → Expression
  | [] => .empty
  | [e] => e
  | e :: rest => .either e (ofAlternatives rest)

/-- The width of a pattern, given the widths of the groups that it refers to. -/
def width (groups : Nat → Width) : Expression → Width
  | .empty | .place _ | .ahead _ _ | .behind _ _ _ => .zero
  | .char _ | .otherChar _ | .any | .set _ _ => .one
  | .sequence a b => (a.width groups).add (b.width groups)
  | .either a b => (a.width groups).join (b.width groups)
  | .repetition _ least most body => (body.width groups).times least most
  | .group _ body | .part _ _ body | .atomic body => body.width groups
  | .reference number => groups number
  | .condition _ yes no => (yes.width groups).join (no.width groups)

/-- Whether some part is repeated. -/
def repeats : Expression → Bool
  | .repetition _ _ _ _ => true
  | .sequence a b | .either a b | .condition _ a b => a.repeats || b.repeats
  | .group _ body | .part _ _ body | .atomic body | .ahead _ body | .behind _ _ body => body.repeats
  | _ => false

/-- Whether the distance of every part that looks back passes a test. -/
def looksBack (test : Option Nat → Bool) : Expression → Bool
  | .behind back _ body => test back && body.looksBack test
  | .sequence a b | .either a b | .condition _ a b => a.looksBack test && b.looksBack test
  | .repetition _ _ _ body | .group _ body | .part _ _ body | .atomic body | .ahead _ body =>
    body.looksBack test
  | _ => true

end Expression

end Pattern

/-- A pattern with the switches that are on at its beginning, and the least count of characters that
it takes. -/
structure Pattern where
  switches : Pattern.Switches
  expression : Pattern.Expression
  least : Nat
  deriving Repr, DecidableEq

end AcceptanceBench
