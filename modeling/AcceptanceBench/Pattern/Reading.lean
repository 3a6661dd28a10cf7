import AcceptanceBench.Number.Reading
import AcceptanceBench.Pattern.Choice
import AcceptanceBench.Pattern.Token
import AcceptanceBench.Text.Word

/-!
Reading a written pattern. Tokens are taken one after another; an open parenthesis puts the current
level aside and begins a new one, which its closing parenthesis folds into an item of the outer
level. Every step takes at least one token, so as many steps as tokens are enough.
-/

namespace AcceptanceBench.Pattern

/-! ### Sets -/

/-- One character or kind inside a set, from its first token on. -/
def readSetEntry (text : Bool) : Token → List Token → Except Defect (Member × List Token)
  | .plain c, rest => .ok (.char c.toNat, rest)
  | .escaped c, rest => Token.readMember text c rest
  | .dangling, _ => .error .malformed

/-- The members of a set up to its closing bracket; `found` are the ones read so far, the latest
first. A closing bracket that comes first is a member, and so is a hyphen that comes last. -/
def readMembers (text : Bool) :
    (steps : Nat) → List Token → (found : List Member) → Except Defect (List Member × List Token)
  | 0, _, _ | _, [], _ => .error .malformed
  | steps + 1, token :: rest, found => do
    if token = .plain ']' ∧ found ≠ [] then return (found.reverse, rest)
    let (low, rest) ← readSetEntry text token rest
    match rest with
    | .plain '-' :: .plain ']' :: rest => return ((.char 45 :: low :: found).reverse, rest)
    | .plain '-' :: token :: rest =>
      let (high, rest) ← readSetEntry text token rest
      match low, high with
      | .char a, .char b =>
        if a ≤ b then readMembers text steps rest (.range a b :: found) else .error .malformed
      | _, _ => .error .malformed
    | rest => readMembers text steps rest (low :: found)

/-- A set, after its opening bracket. A set of one character is that character. -/
def readSet (text : Bool) (rest : List Token) : Except Defect (Expression × List Token) := do
  let (holds, rest) := match rest with
    | .plain '^' :: rest => (false, rest)
    | rest => (true, rest)
  let (members, rest) ← readMembers text rest.length rest []
  match members.eraseDups with
  | [.char code] => return (if holds then .char code else .otherChar code, rest)
  | members => return (.set holds members, rest)

/-! ### Repetitions -/

/-- The least count of rounds that is too large to be read. -/
def repetitionLimit : Nat := 4294967295

/-- A count of rounds, without which there is none. -/
def readCount (digits : List Token) : Except Defect (Option Nat) :=
  if digits.isEmpty then .ok none
  else if digits.length > Reading.digitLimit then .error (.tooManyDigits digits.length)
  else
    let count := Token.number 10 digits
    if count ≥ repetitionLimit then .error .repetitionTooLarge else .ok (some count)

/-- The bounds of a repetition between braces, after the opening brace. Braces that hold no bounds
are ordinary characters, which `none` tells. -/
def readBounds? (rest : List Token) : Except Defect (Option ((Nat × Option Nat) × List Token)) :=
  let low := rest.takeWhile Token.isDigit
  let afterLow := rest.dropWhile Token.isDigit
  let (high, last) := match afterLow with
    | .plain ',' :: rest => (rest.takeWhile Token.isDigit, rest.dropWhile Token.isDigit)
    | _ => (low, afterLow)
  match last with
  | .plain '\x7d' :: after =>
    if rest.head? = some (.plain '\x7d') then .ok none
    else if after = [.dangling] then .error .malformed
    else do
      let least := (← readCount low).getD 0
      let most ← readCount high
      if most.any (· < least) then .error .malformed
      return some ((least, most), after)
  | _ => .ok none

/-- The bounds that a quantifier gives; `none` for an opening brace that is an ordinary
character. -/
def readQuantifier? (c : Char) (rest : List Token) :
    Except Defect (Option ((Nat × Option Nat) × List Token)) :=
  match c with
  | '?' => .ok (some ((0, some 1), rest))
  | '*' => .ok (some ((0, none), rest))
  | '+' => .ok (some ((1, none), rest))
  | _ => readBounds? rest

/-- The greed that a mark after a quantifier chooses. -/
def readGreed : List Token → Greed × List Token
  | .plain '?' :: rest => (.lazy, rest)
  | .plain '+' :: rest => (.possessive, rest)
  | rest => (.greedy, rest)

/-! ### Levels -/

/-- What began a level. -/
inductive Opening where
  | whole
  | group (number : Nat)
  | part (on off : Switches)
  | atomic
  | ahead (holds : Bool)
  | behind (holds outermost : Bool)
  | condition (number : Nat)
  deriving Repr, DecidableEq

/-- A level that is being read: the finished alternatives and the items of the current one, the
latest first. -/
structure Level where
  opening : Opening
  verbose : Bool
  finished : List (List Expression)
  items : List Expression

/-- All that has been read. A group has a width once it is closed. While something looks back, the
groups from `closedBelow` on cannot be referred to. `conditions` are the group numbers that must
exist in the end. -/
structure Progress where
  switches : Switches
  widths : List (Option Width)
  names : List (List Char × Nat)
  closedBelow : Option Nat
  conditions : List Nat
  level : Level
  outer : List Level

namespace Progress

/-- The beginning of a pattern. Anchors hold at every line unless a part says otherwise. -/
def start : Progress :=
  ⟨[.multiline], [], [], none, [], ⟨.whole, false, [], []⟩, []⟩

/-- The progress with one more item. -/
def add (p : Progress) (e : Expression) : Progress :=
  { p with level := { p.level with items := e :: p.level.items } }

/-- The number that the next group gets. -/
def nextGroup (p : Progress) : Nat :=
  p.widths.length + 1

/-- The width of a group, nothing for one that is still open. -/
def width (p : Progress) (number : Nat) : Width :=
  ((p.widths.getD (number - 1) none).getD .zero)

/-- Whether the group is closed. -/
def isClosed (p : Progress) (number : Nat) : Bool :=
  0 < number && (p.widths.getD (number - 1) none).isSome

/-- Whether the group can be named at this point by something that looks back. -/
def isSettled (p : Progress) (number : Nat) : Bool :=
  p.closedBelow.all fun bound => p.isClosed number && number < bound

/-- A reference to a closed group. -/
def refer (p : Progress) (number : Nat) : Except Defect Progress :=
  if p.isClosed number && p.isSettled number then .ok (p.add (.reference number))
  else .error .malformed

/-- The items that stand for one: a part that changes no switches is its items. -/
def unpack : Expression → List Expression
  | .part [] [] body => body.items
  | e => [e]

/-- The items of the current alternative. -/
def alternative (p : Progress) : List Expression :=
  p.level.items.reverse.flatMap unpack

/-- What all alternatives of the current level amount to. -/
def choice (p : Progress) : Expression :=
  .ofList (itemsOfChoice (p.alternative :: p.level.finished).reverse)

/-- The progress after a bar between alternatives; a condition has at most two. -/
def nextAlternative (p : Progress) : Except Defect Progress :=
  match p.level.opening, p.level.finished with
  | .condition _, _ :: _ => .error .malformed
  | _, finished =>
    .ok { p with level := { p.level with finished := p.alternative :: finished, items := [] } }

/-- The progress inside a parenthesis. -/
def enter (p : Progress) (opening : Opening) : Progress :=
  let verbose := match opening with
    | .part on off => (p.level.verbose || on.contains .verbose) && !off.contains .verbose
    | _ => p.level.verbose
  { p with level := ⟨opening, verbose, [], []⟩, outer := p.level :: p.outer }

/-- The progress inside a group, which may have a name that no other group has. -/
def enterGroup (p : Progress) (name : Option (List Char)) : Except Defect Progress :=
  let number := p.nextGroup
  let p := { p with widths := p.widths ++ [none] }
  match name with
  | none => .ok (p.enter (.group number))
  | some name =>
    if (p.names.lookup name).isSome then .error .malformed
    else .ok ({ p with names := (name, number) :: p.names }.enter (.group number))

/-- The progress inside something that looks back. -/
def enterBehind (p : Progress) (holds : Bool) : Progress :=
  let outermost := p.closedBelow.isNone
  let p := if outermost then { p with closedBelow := some p.nextGroup } else p
  p.enter (.behind holds outermost)

/-- The progress after a closing parenthesis; `none` if no parenthesis is open. -/
def leave? (p : Progress) : Option Progress :=
  match p.outer with
  | [] => none
  | level :: outer =>
    let body := p.choice
    let back := { p with level, outer }
    some <| match p.level.opening with
      | .whole => back
      | .group number =>
        { back with widths := p.widths.set (number - 1) (some (body.width p.width)) }.add
          (.group number body)
      | .part on off => back.add (.part on off body)
      | .atomic => back.add (.atomic body)
      | .ahead holds => back.add (.ahead holds body)
      | .behind holds outermost =>
        { back with closedBelow := if outermost then none else p.closedBelow }.add
          (.behind (body.width p.width).fixed? holds body)
      | .condition number =>
        match (p.alternative :: p.level.finished).reverse with
        | [yes, no] => back.add (.condition number (.ofList yes) (.ofList no))
        | _ => back.add (.condition number body .empty)

/-- The latest item repeated. An anchor cannot be repeated, nor can a repetition. -/
def repeatLatest (p : Progress) (greed : Greed) (bounds : Nat × Option Nat) :
    Except Defect Progress :=
  match p.level.items with
  | [] | .place _ :: _ | .repetition _ _ _ _ :: _ => .error .malformed
  | item :: items =>
    .ok ({ p with level := { p.level with items } }.add
      (.repetition greed bounds.1 bounds.2 (.ofList (unpack item))))

/-- The progress with switches for the whole pattern, which come before all else. -/
def switchAll (p : Progress) (on : Switches) : Except Defect Progress :=
  if p.outer.isEmpty && p.level.finished.isEmpty && p.level.items.isEmpty then
    let switches := p.switches ++ on.filter fun switch => !p.switches.contains switch
    .ok { p with switches, level := { p.level with verbose := switches.contains .verbose } }
  else .error .malformed

end Progress

/-! ### Escapes -/

/-- A group reference or an octal escape, after a backslash and a digit that is not zero. Three
octal digits are an escape. -/
def readNumber (c : Char) (rest : List Token) (p : Progress) :
    Except Defect (Progress × List Token) :=
  let referTo (number : Nat) (rest : List Token) : Except Defect (Progress × List Token) := do
    return (← p.refer number, rest)
  match rest with
  | second :: third :: after =>
    if second.isDigit then
      if (Token.plain c).isOctal && second.isOctal && third.isOctal then do
        let (code, _) ← Token.readOctal c 2 rest
        return (p.add (.char code), after)
      else referTo (Token.number 10 [.plain c, second]) (third :: after)
    else referTo (Token.number 10 [.plain c]) rest
  | [second] =>
    if second.isDigit then referTo (Token.number 10 [.plain c, second]) []
    else referTo (Token.number 10 [.plain c]) rest
  | [] => referTo (Token.number 10 [.plain c]) []

/-- An escape outside a set. -/
def readEscape (text : Bool) (c : Char) (rest : List Token) (p : Progress) :
    Except Defect (Progress × List Token) :=
  match Token.place? c, Token.kind? c with
  | some place, _ => .ok (p.add (.place place), rest)
  | none, some (kind, holds) => .ok (p.add (.set true [.kind kind holds]), rest)
  | none, none => do
    if '1' ≤ c ∧ c ≤ '9' then readNumber c rest p
    else
      let (code, rest) ← if c = '0' then Token.readOctal c 2 rest else Token.readChar text c rest
      return (p.add (.char code), rest)

/-! ### Parentheses -/

/-- A name up to a closing mark. -/
def readGroupName (close : Char) (rest : List Token) : Except Defect (List Char × List Token) :=
  match Token.readName? close rest with
  | some (name, rest) => if Text.isName name then .ok (name, rest) else .error .malformed
  | none => .error .malformed

/-- The tokens after a comment's closing parenthesis. -/
def skipRemark : List Token → Except Defect (List Token)
  | [] => .error .malformed
  | token :: rest => if token = .plain ')' then .ok rest else skipRemark rest

/-- The tokens after a comment that ends with its line. -/
def skipLine : List Token → List Token
  | [] => []
  | [.dangling] => [.dangling]
  | token :: rest => if token = .plain '\n' then rest else skipLine rest

/-- The greatest group number that a condition may name before all groups are known. -/
def conditionLimit : Nat := 1073741823

/-- A condition on a group, after its opening parentheses. -/
def readCondition (rest : List Token) (p : Progress) : Except Defect (Progress × List Token) := do
  let some (name, rest) := Token.readName? ')' rest | .error .malformed
  let (number, p) ←
    if Text.isName name then
      match p.names.lookup name with
      | some number => .ok (number, p)
      | none => .error .malformed
    else
      match Reading.int? (String.ofList name) with
      | some (.ofNat number) =>
        if 0 < number ∧ number < conditionLimit then
          .ok (number, { p with conditions := number :: p.conditions })
        else .error .malformed
      | _ => .error .malformed
  if p.isSettled number then return (p.enter (.condition number), rest) else .error .malformed

/-- The switches that begin some tokens. -/
def readSwitches : List Token → Switches × List Token
  | .plain c :: rest =>
    match Switch.ofChar? c with
    | some switch =>
      let (more, rest) := readSwitches rest
      (switch :: more, rest)
    | none => ([], .plain c :: rest)
  | rest => ([], rest)

/-- Whether switches can be turned on in a text or in bytes: at most one choice of what is a letter,
and not the one that only the other can make. -/
def canTurnOn (text : Bool) (on : Switches) : Bool :=
  !on.contains (if text then .locale else .unicode)
    && (on.filter Switch.choosesLetters).eraseDups.length ≤ 1

/-- Switches for a part of the pattern or for all of it, after the question mark. -/
def readSwitching (text : Bool) (rest : List Token) (p : Progress) :
    Except Defect (Progress × List Token) :=
  let (on, rest) := readSwitches rest
  if !canTurnOn text on then .error .malformed
  else
    match rest with
    | .plain ')' :: rest =>
      if on.isEmpty then .error .malformed else do return (← p.switchAll on, rest)
    | .plain ':' :: rest =>
      if on.isEmpty || on.contains .template then .error .malformed
      else .ok (p.enter (.part on []), rest)
    | .plain '-' :: rest =>
      match readSwitches rest with
      | (off, .plain ':' :: rest) =>
        if off.isEmpty || (on ++ off).contains .template || off.any Switch.choosesLetters
          || off.any on.contains then .error .malformed
        else .ok (p.enter (.part on off), rest)
      | _ => .error .malformed
    | _ => .error .malformed

/-- What follows an opening parenthesis. -/
def readOpening (text : Bool) (rest : List Token) (p : Progress) :
    Except Defect (Progress × List Token) :=
  match rest with
  | .plain '?' :: .plain 'P' :: .plain '<' :: rest => do
    let (name, rest) ← readGroupName '>' rest
    return (← p.enterGroup (some name), rest)
  | .plain '?' :: .plain 'P' :: .plain '=' :: rest => do
    let (name, rest) ← readGroupName ')' rest
    match p.names.lookup name with
    | some number => return (← p.refer number, rest)
    | none => .error .malformed
  | .plain '?' :: .plain ':' :: rest => .ok (p.enter (.part [] []), rest)
  | .plain '?' :: .plain '#' :: rest => do return (p, ← skipRemark rest)
  | .plain '?' :: .plain '=' :: rest => .ok (p.enter (.ahead true), rest)
  | .plain '?' :: .plain '!' :: rest => .ok (p.enter (.ahead false), rest)
  | .plain '?' :: .plain '<' :: .plain '=' :: rest => .ok (p.enterBehind true, rest)
  | .plain '?' :: .plain '<' :: .plain '!' :: rest => .ok (p.enterBehind false, rest)
  | .plain '?' :: .plain '>' :: rest => .ok (p.enter .atomic, rest)
  | .plain '?' :: .plain '(' :: rest => readCondition rest p
  | .plain '?' :: rest => readSwitching text rest p
  | rest => do return (← p.enterGroup none, rest)

/-! ### Whole patterns -/

/-- One item, from its first token on. Blanks and comments between the items of a verbose pattern
count for nothing. -/
def readItem (text : Bool) (token : Token) (rest : List Token) (p : Progress) :
    Except Defect (Progress × List Token) :=
  match token with
  | .dangling => .error .malformed
  | .escaped c => readEscape text c rest p
  | .plain c =>
    if p.level.verbose && Text.isAsciiBlank c then .ok (p, rest)
    else if p.level.verbose && c = '#' then .ok (p, skipLine rest)
    else
      match c with
      | '|' => do return (← p.nextAlternative, rest)
      | '.' => .ok (p.add .any, rest)
      | '^' => .ok (p.add (.place .lineStart), rest)
      | '$' => .ok (p.add (.place .lineEnd), rest)
      | '(' => readOpening text rest p
      | '[' => do
        let (set, rest) ← readSet text rest
        return (p.add set, rest)
      | '*' | '+' | '?' | '\x7b' => do
        match ← readQuantifier? c rest with
        | none => return (p.add (.char c.toNat), rest)
        | some (bounds, rest) =>
          let (greed, after) := readGreed rest
          return (← p.repeatLatest greed bounds, after)
      | c => .ok (p.add (.char c.toNat), rest)

/-- Everything up to the end of the pattern, or up to a closing parenthesis that closes nothing. -/
def readItems (text : Bool) :
    (steps : Nat) → List Token → Progress → Except Defect (Progress × List Token)
  | _, [], p => .ok (p, [])
  | 0, _ :: _, _ => .error .malformed
  | steps + 1, token :: rest, p =>
    if token = .plain ')' then
      match p.leave? with
      | some p => readItems text steps rest p
      | none => .ok (p, token :: rest)
    else do
      let (p, rest) ← readItem text token rest p
      readItems text steps rest p

/-- Whether switches for the whole pattern exclude each other. -/
def clash (text : Bool) (switches : Switches) : Bool :=
  switches.contains .ascii && switches.contains (if text then .unicode else .locale)

/-- Reads a pattern for texts, or for bytes as characters below 256. Letters are those of every
script in a text and those of ASCII in bytes, unless a switch says otherwise. -/
def read (text : Bool) (pattern : List Char) : Except Defect Pattern := do
  let (p, rest) ← readItems text pattern.length (Token.ofChars pattern) .start
  if !p.outer.isEmpty then .error .malformed
  else if clash text p.switches then .error .switchesClash
  else
    let expression := p.choice
    let switches :=
      if text && !p.switches.contains .ascii && !p.switches.contains .unicode then
        p.switches ++ [.unicode]
      else p.switches
    if !rest.isEmpty || p.conditions.any (· ≥ p.nextGroup)
      || (switches.contains .template && expression.repeats)
      || !expression.looksBack Option.isSome then .error .malformed
    else if !expression.looksBack (·.any (· < reachLimit)) then .error .looksBackTooFar
    else .ok ⟨switches, expression, (expression.width p.width).atLeast⟩

end AcceptanceBench.Pattern
