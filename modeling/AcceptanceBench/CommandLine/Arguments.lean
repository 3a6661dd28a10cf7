import AcceptanceBench.CommandLine.Word

/-!
Collecting the words of a command: one plain word at most, and options in any order. A word that has
no place is kept in mind, and makes the command line wrong unless help is asked for first.
-/

namespace AcceptanceBench.CommandLine

/-- What has been collected: the plain word, options by name with their values, the latest first,
and whether a word had no place. -/
structure Arguments where
  plain : Option String
  options : List (String × String)
  misplaced : Bool
  deriving Repr, DecidableEq

namespace Arguments

/-- Nothing collected. -/
def none : Arguments := ⟨.none, [], false⟩

/-- The value of an option; a switch that is on has an empty one. -/
def get? (a : Arguments) (name : String) : Option String :=
  a.options.lookup name

/-- With an option's value added, if it is acceptable. -/
def add (option : OptionSpec) (value : String) (a : Arguments) : Except Stop Arguments :=
  match option.kind with
  | .value accepts =>
    if accepts value then .ok { a with options := (option.name, value) :: a.options }
    else .error .wrong
  | _ => .ok { a with options := (option.name, value) :: a.options }

end Arguments

/-- What a request for help comes to. After its single letter the same letter may follow, any number
of times; nothing else may be attached to it. -/
def helpStop (option : OptionSpec) : Option String → Stop
  | .none => .help
  | some attached =>
    if option.name.startsWith "--" || attached = "" then .wrong
    else if attached.toList.all (· = 'h') then .help
    else .wrong

/-- Collects words. A divider goes with the plain word that it stands before or after. -/
def collect (wantsPlain : Bool) : List Word → Arguments → Except Stop Arguments
  | [], a => .ok a
  | .unknown :: rest, a => collect wantsPlain rest { a with misplaced := true }
  | .plain s :: rest, a =>
    if wantsPlain && a.plain.isNone then
      match rest with
      | .divider :: rest => collect wantsPlain rest { a with plain := some s }
      | rest => collect wantsPlain rest { a with plain := some s }
    else collect wantsPlain rest { a with misplaced := true }
  | .divider :: rest, a =>
    match rest with
    | .plain s :: rest =>
      if wantsPlain && a.plain.isNone then collect wantsPlain rest { a with plain := some s }
      else collect wantsPlain rest { a with misplaced := true }
    | rest => collect wantsPlain rest { a with misplaced := true }
  | .known option attached :: rest, a =>
    match option.kind, attached with
    | .help, attached => .error (helpStop option attached)
    | .switch, some _ => .error .wrong
    | .switch, .none => do collect wantsPlain rest (← a.add option "")
    | .value _, some attached => do collect wantsPlain rest (← a.add option attached)
    | .value _, .none =>
      match rest with
      | .plain s :: rest => do collect wantsPlain rest (← a.add option s)
      | _ => .error .wrong

end AcceptanceBench.CommandLine
