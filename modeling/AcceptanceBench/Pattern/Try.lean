import AcceptanceBench.Pattern.Letter

/-!
Trying a pattern at a position. A matcher tries a pattern and hands every position at which it may
end, in order of preference, to what has to match next; the first way through wins. Repetitions go
on only while a round moves ahead.

What a try notes on its way, the places where groups begin and end, is handed on even when the way
fails. Going back to a choice forgets the groups that were new since then. The places of older
groups come back too if the choice lies in a repetition; elsewhere they stay as the failed way left
them.
-/

namespace AcceptanceBench.Pattern

/-- What a try has noted: where each group begins and ends, as far as known, in two entries for
each group; and the place that it came to last. -/
structure Notes where
  marks : Array (Option Nat)
  spot : Nat

/-- How a try ended, and its notes at that moment. -/
structure Tried where
  through : Bool
  notes : Notes

/-- What has to match after a pattern, tried from a position. -/
abbrev Continuation := Nat → Notes → Tried

/-- A pattern made ready to be tried at a position. -/
abbrev Matcher := Nat → Notes → Continuation → Tried

namespace Notes

/-- The notes of a try that begins at a position. -/
def start (position : Nat) : Notes := ⟨#[], position⟩

/-- The notes after the try came to a place. -/
def arrive (n : Notes) (spot : Nat) : Notes := { n with spot }

/-- The notes with an entry for a position; entries that were skipped stay unknown. -/
def mark (n : Notes) (entry position : Nat) : Notes :=
  { n with
    marks := (n.marks ++ Array.replicate (entry + 1 - n.marks.size) none).setIfInBounds entry
      (some position) }

/-- The beginning and end of a group that has matched. -/
def span? (n : Notes) (number : Nat) : Option (Nat × Nat) :=
  match (n.marks[2 * number - 2]?).join, (n.marks[2 * number - 1]?).join with
  | some first, some last => if first ≤ last then some (first, last) else none
  | _, _ => none

/-- Whether some group ends before it begins. -/
def isCrossed (n : Notes) : Bool :=
  (List.range (n.marks.size / 2)).any fun group =>
    match (n.marks[2 * group]?).join, (n.marks[2 * group + 1]?).join with
    | some first, some last => last < first
    | _, _ => false

/-- The notes after going back to a choice that was made with the notes `before`. Inside a
repetition all marks are as they were; elsewhere only the new ones are forgotten. -/
def backTo (n before : Notes) (inside : Bool) : Notes :=
  { n with marks := if inside then before.marks else n.marks.extract 0 before.marks.size }

end Notes

namespace Tried

/-- The other way, tried with the notes of this one unless it got through. -/
def orElse (t : Tried) (other : Notes → Tried) : Tried :=
  if t.through then t else other t.notes

/-- The notes of a failed way changed. -/
def failing (t : Tried) (change : Notes → Notes) : Tried :=
  if t.through then t else ⟨false, change t.notes⟩

end Tried

/-- The end of a pattern that is tried for itself. -/
def stop : Continuation := fun position notes => ⟨true, notes.arrive position⟩

namespace Matcher

/-- Matches nothing, everywhere. -/
def empty : Matcher := fun position notes next => next position notes

/-- Matches nowhere. -/
def fail : Matcher := fun _ notes _ => ⟨false, notes⟩

/-- One matcher after another. -/
def andThen (first second : Matcher) : Matcher :=
  fun position notes next => first position notes fun between notes => second between notes next

/-- A matcher as one of several choices: it is not tried where it cannot begin, and going back to
the choice takes back what it noted. -/
def asChoice (body : Matcher) (inside : Bool) (mayBegin : Nat → Bool) : Matcher :=
  fun position notes next =>
    if mayBegin position then
      (body position (notes.arrive position) next).failing (·.backTo notes inside)
    else ⟨false, notes⟩

/-- One matcher or else another. -/
def either (first second : Matcher) : Matcher :=
  fun position notes next =>
    (first position notes next).orElse fun notes => second position notes next

/-- A matcher that is tried for itself: its first way through is the only one. -/
def atomic (body : Matcher) : Matcher :=
  fun position notes next =>
    let t := body position (notes.arrive position) stop
    if t.through then next t.notes.spot t.notes else ⟨false, t.notes.arrive position⟩

/-- A matcher that has to match from `back` characters before the position on. -/
def looking (body : Matcher) (back : Nat) : Matcher :=
  fun position notes next =>
    if position < back then ⟨false, notes⟩
    else
      let t := body (position - back) (notes.arrive (position - back)) stop
      if t.through then next position t.notes else t

/-- A matcher that must not match from `back` characters before the position on. -/
def lookingNot (body : Matcher) (inside : Bool) (back : Nat) : Matcher :=
  fun position notes next =>
    if position < back then next position notes
    else
      let t := body (position - back) (notes.arrive (position - back)) stop
      if t.through then ⟨false, t.notes⟩ else next position (t.notes.backTo notes inside)

/-- A matcher whose beginning and end are noted as those of a group. -/
def group (number : Nat) (body : Matcher) : Matcher :=
  fun position notes next =>
    body position (notes.mark (2 * number - 2) position) fun after notes =>
      next after (notes.mark (2 * number - 1) after)

/-! ### Rounds of any pattern -/

/-- Whether one more round is allowed. -/
def mayGoOn : Option Nat → Bool
  | some 0 => false
  | _ => true

/-- The rounds that are left after one more. -/
def oneLess (left : Option Nat) : Option Nat :=
  left.map (· - 1)

/-- A number of rounds, all of them needed, and then what comes after them. -/
def rounds (body : Matcher) (after : Continuation) : Nat → Continuation
  | 0 => after
  | n + 1 => fun position notes =>
    (body position (notes.arrive position) (rounds body after n)).failing (·.arrive position)

/-- As many rounds as possible, then fewer. A round that does not move ahead is the last one. -/
def greedily (body : Matcher) (size : Nat) (next : Continuation) (left : Option Nat)
    (position : Nat) (notes : Notes) : Tried :=
  let leave (position : Nat) (notes : Notes) : Tried :=
    (next position (notes.arrive position)).failing (·.arrive position)
  if mayGoOn left then
    let further := body position (notes.arrive position) fun after notes =>
      if _h : position < after ∧ after ≤ size then
        greedily body size next (oneLess left) after notes
      else leave after notes
    further.orElse fun failed => leave position (failed.backTo notes true)
  else leave position notes
termination_by size - position

/-- As few rounds as possible, then more. A round that does not move ahead is the last one. -/
def lazily (body : Matcher) (inside : Bool) (size : Nat) (next : Continuation) (left : Option Nat)
    (position : Nat) (notes : Notes) : Tried :=
  let leave (position : Nat) (notes : Notes) : Tried :=
    (next position (notes.arrive position)).failing fun failed =>
      (failed.backTo notes inside).arrive position
  (leave position notes).orElse fun notes =>
    if mayGoOn left then
      let further := body position notes fun after notes =>
        if _h : position < after ∧ after ≤ size then
          lazily body inside size next (oneLess left) after notes
        else leave after notes
      further.failing (·.arrive position)
    else ⟨false, notes⟩
termination_by size - position

/-- As many rounds as possible, each the first way through. The next round begins at the last place
of the one before it, and the rounds end at the last place of the one that failed. -/
def possessively (body : Matcher) (size : Nat) (left : Option Nat) (notes : Notes) : Notes :=
  if mayGoOn left then
    match body notes.spot notes stop with
    | ⟨true, ended⟩ =>
      if _h : notes.spot < ended.spot ∧ ended.spot ≤ size then
        possessively body size (oneLess left) ended
      else ended
    | ⟨false, failed⟩ => failed.backTo notes true
  else notes
termination_by size - notes.spot

/-- A number of rounds, all of them needed and each the first way through. -/
def possessiveRounds (body : Matcher) : Nat → Notes → Tried
  | 0, notes => ⟨true, notes⟩
  | n + 1, notes =>
    let t := body notes.spot notes stop
    if t.through then possessiveRounds body n t.notes else t

/-- A repetition of `least` up to `most` rounds of any pattern. -/
def repetition (greed : Greed) (least : Nat) (most : Option Nat) (size : Nat) (inside : Bool)
    (body : Matcher) : Matcher :=
  let left := most.map (· - least)
  match greed with
  | .greedy => fun position notes next =>
    rounds body (greedily body size next left) least position notes
  | .lazy => fun position notes next =>
    rounds body (lazily body inside size next left) least position notes
  | .possessive => fun position notes next =>
    let needed := possessiveRounds body least (notes.arrive position)
    if needed.through then
      let ended := possessively body size left needed.notes
      next ended.spot ended
    else ⟨false, needed.notes.arrive position⟩

/-! ### Rounds of one character each -/

/-- How many characters from a position on satisfy a test, at most `limit`. -/
def countWhile (subject : Array Nat) (test : Nat → Bool) : (limit : Nat) → (position : Nat) → Nat
  | 0, _ => 0
  | limit + 1, position =>
    match subject[position]? with
    | some c => if test c then countWhile subject test limit (position + 1) + 1 else 0
    | none => 0

/-- Tries `extra` characters beyond a position first, and then fewer. -/
def longestFirst (choice : Continuation) (position : Nat) : (extra : Nat) → Notes → Tried
  | 0, notes => choice position notes
  | extra + 1, notes =>
    (choice (position + (extra + 1)) notes).orElse (longestFirst choice position extra)

/-- Tries a position first and then goes on one by one, at most `limit` times, while the character
that is passed satisfies a test. A test in a folded set comes to the place after the character. -/
def shortestFirst (choice : Continuation) (subject : Array Nat) (test : CharTest) :
    (limit : Nat) → Continuation
  | limit, position, notes =>
    (choice position notes).orElse fun notes =>
      if (subject[position]?).any test.holds then
        let passed := notes.arrive (if test.form = .inFoldedSet then position + 1 else position)
        match limit with
        | 0 => ⟨false, passed⟩
        | limit + 1 => shortestFirst choice subject test limit (position + 1) passed
      else ⟨false, notes.arrive position⟩

/-- A repetition of `least` up to `most` characters that satisfy a test. Where it is known which
character has to follow, only the places before that character are tried. -/
def run (greed : Greed) (least : Nat) (most : Option Nat) (subject : Array Nat) (inside : Bool)
    (follow : Option Nat) (test : CharTest) : Matcher :=
  fun position notes next =>
    let left := subject.size - position
    let count (limit : Nat) : Nat := countWhile subject test.holds (min limit left) position
    let counted (count : Nat) : Notes :=
      notes.arrive (if test.form = .inFoldedSet then position + count else position)
    if left < least then ⟨false, notes⟩
    else
      match greed with
      | .greedy =>
        let count := count (most.getD left)
        let mayEnd (position : Nat) : Bool := follow.all fun code => subject[position]? == some code
        let choice (position : Nat) (notes : Notes) : Tried :=
          asChoice empty inside mayEnd position notes next
        if count < least then ⟨false, counted count⟩
        else longestFirst choice (position + least) (count - least) (counted count)
      | .lazy =>
        let count := count least
        let choice (position : Nat) (notes : Notes) : Tried :=
          asChoice empty inside (fun _ => true) position notes next
        if count < least then ⟨false, counted count⟩
        else
          shortestFirst choice subject test (((most.getD left) - least)) (position + least)
            (counted count)
      | .possessive =>
        let count := count (most.getD left)
        if count < least then ⟨false, counted count⟩ else next (position + count) (counted count)

end Matcher

/-! ### Patterns -/

/-- Whether the place before the character at `position` is as named. A boundary lies between a word
character and another one, or an end; an empty subject has neither boundaries nor places without
one. -/
def holdsAt (letters : Letters) (multiline : Bool) (subject : Array Nat) (position : Nat)
    (place : Place) : Bool :=
  let size := subject.size
  let newline (i : Nat) : Bool := subject[i]? == some 10
  let isWord (i : Nat) : Bool := subject[i]?.any letters.isWord
  let before := 0 < position && isWord (position - 1)
  match place with
  | .textStart => position == 0
  | .textEnd => position == size
  | .lineStart => position == 0 || (multiline && newline (position - 1))
  | .lineEnd =>
    position == size || (newline position && (multiline || position + 1 == size))
  | .boundary => size != 0 && before != isWord position
  | .noBoundary => size != 0 && before == isWord position

/-- Takes one character that satisfies a test. -/
def oneChar (subject : Array Nat) (test : CharTest) : Matcher := fun position notes next =>
  if subject[position]?.any test.holds then next (position + 1) notes else ⟨false, notes⟩

/-- Takes the same characters as a group has matched. -/
def sameAs (subject : Array Nat) (fold : Nat → Nat) (number : Nat) : Matcher :=
  fun position notes next =>
    match notes.span? number with
    | none => ⟨false, notes⟩
    | some (first, last) =>
      let count := last - first
      let same := (List.range count).all fun i =>
        (subject[first + i]?).map fold == (subject[position + i]?).map fold
      if same then next (position + count) notes else ⟨false, notes⟩

/-- What a pattern begins with: the test of its first character, something else, or nothing if it is
empty. -/
inductive Lead where
  | nothing
  | test (t : CharTest)
  | other

namespace Lead

/-- What one part begins with, or else the next one. -/
def orElse : Lead → Lead → Lead
  | .nothing, other => other
  | lead, _ => lead

/-- What a pattern begins with. -/
def of (on : Switches) : Expression → Lead
  | .empty => .nothing
  | .sequence a b =>
    match of on a with
    | .nothing => of on b
    | lead => lead
  | .part add drop body => of (Switch.adjust on add drop) body
  | e =>
    match CharTest.ofExpression? on e with
    | some t => .test t
    | none => .other

/-- The character that has to come first, if that is known. -/
def code? : Lead → Option Nat
  | .test ⟨.exactly code, _⟩ => some code
  | _ => none

/-- Whether the character at a position does not rule the pattern out at once. Only tests that take
characters as they stand are tried beforehand. -/
def allows (subject : Array Nat) (position : Nat) : Lead → Bool
  | .test ⟨.exactly _, holds⟩ | .test ⟨.inSet, holds⟩ => subject[position]?.any holds
  | _ => true

end Lead

/-- Whether a pattern is a choice between alternatives. -/
def Expression.isChoice : Expression → Bool
  | .either _ _ => true
  | _ => false

/-- Makes a pattern ready for a subject, with the switches that are on, whether it lies in a
repetition, and what follows it. -/
def matcher (subject : Array Nat) : Switches → (inside : Bool) → (follow : Lead) → Expression →
    Matcher
  | _, _, _, .empty => .empty
  | on, _, _, .char code =>
    oneChar subject (.ofChar (.of on) (on.contains .ignoreCase) true code)
  | on, _, _, .otherChar code =>
    oneChar subject (.ofChar (.of on) (on.contains .ignoreCase) false code)
  | on, _, _, .any => oneChar subject ⟨.other, fun c => on.contains .dotAll || c != 10⟩
  | on, _, _, .set positive members =>
    oneChar subject (.ofSet (.of on) (on.contains .ignoreCase) positive members)
  | on, _, _, .place place => fun position notes next =>
    if holdsAt (.of on) (on.contains .multiline) subject position place then next position notes
    else ⟨false, notes⟩
  | on, inside, follow, .sequence a b =>
    (matcher subject on inside ((Lead.of on b).orElse follow) a).andThen
      (matcher subject on inside follow b)
  | on, inside, _, .either a b =>
    let first := (matcher subject on inside .other a).asChoice inside fun position =>
      (Lead.of on a).allows subject position
    let second := matcher subject on inside .other b
    .either first (if b.isChoice then second
      else second.asChoice inside fun position => (Lead.of on b).allows subject position)
  | on, inside, follow, .repetition greed least most body =>
    match CharTest.ofUnit? on body with
    | some test => .run greed least most subject inside follow.code? test
    | none =>
      .repetition greed least most subject.size inside
        (matcher subject on (inside || greed != .possessive) .other body)
  | on, inside, _, .group number body => .group number (matcher subject on inside .other body)
  | on, inside, follow, .part add drop body =>
    matcher subject (Switch.adjust on add drop) inside follow body
  | on, inside, _, .atomic body => (matcher subject on inside .other body).atomic
  | on, inside, _, .ahead positive body =>
    let body := matcher subject on inside .other body
    if positive then body.looking 0 else body.lookingNot inside 0
  | on, inside, _, .behind back positive body =>
    let body := matcher subject on inside .other body
    match back with
    | some count => if positive then body.looking count else body.lookingNot inside count
    | none => .fail
  | on, _, _, .reference number =>
    let fold : Nat → Nat := if on.contains .ignoreCase then (Letters.of on).lower else id
    sameAs subject fold number
  | on, inside, follow, .condition number yes no =>
    let afterYes := if no.items.isEmpty then follow else .other
    let yes := matcher subject on inside afterYes yes
    let no := matcher subject on inside follow no
    fun position notes next =>
      if (notes.span? number).isSome then yes position notes next else no position notes next

end AcceptanceBench.Pattern
