import AcceptanceBench.Pattern.Try

/-!
Looking for a pattern in a subject. Where it may begin is told by its first characters, which are
looked for before the pattern is tried: a text that every match begins with, or a set that its first
character is in. Such a set is read with the switches of the whole pattern, even where it stands in
a part with others.
-/

namespace AcceptanceBench.Pattern

/-- Whether case counts for nothing in the way of a locale. -/
def foldsByLocale (on : Switches) : Bool :=
  on.contains .ignoreCase && on.contains .locale

/-- Whether a character has another case that counts as the same. -/
def foldsCase (on : Switches) (code : Nat) : Bool :=
  on.contains .ignoreCase && (Letters.of on).isCased code

/-- The characters that every match begins with, and whether they are the whole pattern. -/
def leadingText (on : Switches) : Expression → List Nat × Bool
  | .empty => ([], true)
  | .char code => if foldsCase on code then ([], false) else ([code], true)
  | .sequence a b =>
    match leadingText on a with
    | (text, true) =>
      let (more, whole) := leadingText on b
      (text ++ more, whole)
    | partly => partly
  | .group _ body => leadingText on body
  | .part add drop body =>
    let on := Switch.adjust on add drop
    if foldsByLocale on then ([], false) else leadingText on body
  | _ => ([], false)

/-- A set of characters. -/
structure CharSet where
  positive : Bool
  members : List Member
  deriving Repr, DecidableEq

/-- Whether a set holds for a character as it stands. -/
def CharSet.holds (set : CharSet) (letters : Letters) (code : Nat) : Bool :=
  set.members.any (·.holds letters code) == set.positive

/-- The alternatives of a pattern. -/
def alternativesOf : Expression → List Expression
  | .either a b => a :: alternativesOf b
  | e => [e]

/-- The character that a pattern begins with, if it counts as it stands. -/
def firstCode? (on : Switches) (e : Expression) : Option Nat :=
  match e.items with
  | .char code :: _ => if foldsCase on code then none else some code
  | _ => none

/-- The set that the first character of every match is in, if the pattern begins with one. -/
def leadingSet? (on : Switches) : Expression → Option CharSet
  | .sequence a _ => leadingSet? on a
  | .group _ body => leadingSet? on body
  | .part add drop body =>
    let on := Switch.adjust on add drop
    if foldsByLocale on then none else leadingSet? on body
  | .char code => if foldsCase on code then none else some ⟨true, [.char code]⟩
  | .either a b => do
    let codes ← (alternativesOf (.either a b)).mapM (firstCode? on)
    return ⟨true, codes.map .char⟩
  | .set positive members =>
    let folds (m : Member) : Bool := on.contains .ignoreCase && match m with
      | .char code => (Letters.of on).isCased code
      | .range low high => high > foldedLimit || (Letters.of on).anyCased low high
      | .kind _ _ => false
    if members.any folds then none else some ⟨positive, members⟩
  | _ => none

/-- Where matches may begin. -/
inductive Beginning where
  | anywhere
  | text (codes : List Nat)
  | oneOf (set : CharSet)
  deriving Repr, DecidableEq

/-- Where matches of a pattern may begin; a pattern that can match nothing may begin anywhere. -/
def beginning (pattern : Pattern) : Beginning :=
  if pattern.least = 0 then .anywhere
  else
    let (text, _) :=
      if foldsByLocale pattern.switches then ([], false)
      else leadingText pattern.switches pattern.expression
    if text ≠ [] then .text text
    else if foldsByLocale pattern.switches then .anywhere
    else
      match leadingSet? pattern.switches pattern.expression with
      | some set => .oneOf set
      | none => .anywhere

/-- Whether a match may begin at a position. -/
def Beginning.allows (letters : Letters) (subject : Array Nat) (position : Nat) :
    Beginning → Bool
  | .anywhere => true
  | .text codes => codes.zipIdx.all fun (code, i) => subject[position + i]? == some code
  | .oneOf set => subject[position]?.any (set.holds letters)

/-- What a search comes to. A match in which some group ends before it begins is none that can be
told. -/
inductive Finding where
  | found
  | missing
  | crossed
  deriving Repr, DecidableEq

/-- Tries positions one after another. -/
def searchFrom (tryAt : Nat → Tried) (allowed : Nat → Bool) : (count position : Nat) → Finding
  | 0, _ => .missing
  | count + 1, position =>
    if allowed position then
      match tryAt position with
      | ⟨true, notes⟩ => if notes.isCrossed then .crossed else .found
      | ⟨false, _⟩ => searchFrom tryAt allowed count (position + 1)
    else searchFrom tryAt allowed count (position + 1)

/-- Looks for the pattern in a subject. Nothing is tried where too few characters are left for it.
-/
def search (pattern : Pattern) (subject : Array Nat) : Finding :=
  let body := matcher subject pattern.switches false .other pattern.expression
  let start := beginning pattern
  let count := match start with
    | .anywhere => subject.size - (pattern.least - 1) + 1
    | _ => subject.size
  if subject.size < pattern.least then .missing
  else
    searchFrom (fun position => body position (.start position) stop)
      (fun position => start.allows (.of pattern.switches) subject position) count 0

end AcceptanceBench.Pattern
