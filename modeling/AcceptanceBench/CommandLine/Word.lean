import AcceptanceBench.Text.Digit

/-!
The words of a command line: options, which begin with a hyphen, and all others. A long option may
be cut short as long as only one option begins that way. After two hyphens alone every word is
plain.
-/

namespace AcceptanceBench.CommandLine

/-- What an option does: it asks for help, it is on or off, or it takes a value that has to be
acceptable. -/
inductive OptionKind where
  | help
  | switch
  | value (accepts : String → Bool)

/-- An option with the hyphens that begin its name. -/
structure OptionSpec where
  name : String
  kind : OptionKind

/-- A word of a command line. An option's value may be part of its word. -/
inductive Word where
  | plain (s : String)
  | divider
  | known (option : OptionSpec) (attached : Option String)
  | unknown

/-- What ends the reading of a command line: a request for help, or a word that does not fit. -/
inductive Stop where
  | help
  | wrong
  deriving Repr, DecidableEq

/-- Whether all characters are decimal digits, of any script, and there are some. -/
def areDigits (cs : List Char) : Bool :=
  !cs.isEmpty && cs.all fun c => (Text.digitValue? c.toNat).isSome

/-- Whether a word is a negative number, with a fraction or without; a line feed may follow. -/
def isNegativeNumber (s : String) : Bool :=
  match s.toList with
  | '-' :: rest =>
    let body := if rest.getLast? = some '\n' then rest.dropLast else rest
    let fraction := (body.dropWhile (· != '.')).drop 1
    areDigits body
      || (body.contains '.' && areDigits fraction
        && (let whole := body.takeWhile (· != '.'); whole.isEmpty || areDigits whole))
  | _ => false

/-- The options that a word may mean, with what is attached. A word with two hyphens is cut at the
equals sign, and one with a single hyphen after its letter. -/
def candidates (options : List OptionSpec) (s : String) : List (OptionSpec × Option String) :=
  let cs := s.toList
  match cs with
  | '-' :: '-' :: _ =>
    let name := cs.takeWhile (· != '=')
    let attached := if cs.contains '=' then
        some (String.ofList (cs.drop (name.length + 1)))
      else none
    options.filterMap fun o =>
      if name.isPrefixOf o.name.toList then some (o, attached) else none
  | _ =>
    options.filterMap fun o =>
      if o.name.toList = cs.take 2 then some (o, some (String.ofList (cs.drop 2)))
      else if cs.isPrefixOf o.name.toList then some (o, none)
      else none

/-- Tells what a word is. A word with a hyphen that is no option is plain if it is a negative number
or has a space in it. -/
def Word.read (options : List OptionSpec) (s : String) : Except Stop Word :=
  let named (name : String) : Option OptionSpec := options.find? (·.name == name)
  let cs := s.toList
  let head := String.ofList (cs.takeWhile (· != '='))
  if cs.head? ≠ some '-' || s = "-" then .ok (.plain s)
  else
    match named s, named head with
    | some o, _ => .ok (.known o none)
    | none, some o => .ok (.known o (some (String.ofList (cs.drop (head.length + 1)))))
    | none, none =>
      match candidates options s with
      | [(o, attached)] => .ok (.known o attached)
      | _ :: _ :: _ => .error .wrong
      | [] => .ok (if isNegativeNumber s || cs.contains ' ' then .plain s else .unknown)

/-- Tells what all words are. -/
def readWords (options : List OptionSpec) : List String → Except Stop (List Word)
  | [] => .ok []
  | s :: rest =>
    if s = "--" then .ok (.divider :: rest.map .plain)
    else do
      let word ← Word.read options s
      return word :: (← readWords options rest)

end AcceptanceBench.CommandLine
