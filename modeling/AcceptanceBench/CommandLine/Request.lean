import AcceptanceBench.CommandLine.Arguments
import AcceptanceBench.Number.Reading
import AcceptanceBench.Session

/-!
What a command line asks for. A word names the command, and what follows belongs to it.
-/

namespace AcceptanceBench.CommandLine

/-- What is asked for. -/
inductive Request where
  | build (directory : String)
  | usb (request index : Int) (hostToDevice : Bool) (data : String)
  | listPorts
  | expect (channel operator expected : String) (write : Option String) (timeout : Binary64)
      (baud : Int)
  deriving Repr, DecidableEq

/-- The options of every command that ask for help. -/
def helpOptions : List OptionSpec := [⟨"-h", .help⟩, ⟨"--help", .help⟩]

/-- An option for a whole number. -/
def wholeOption (name : String) : OptionSpec :=
  ⟨name, .value fun s => (Reading.int? s).isSome⟩

/-- An option for any text. -/
def textOption (name : String) : OptionSpec :=
  ⟨name, .value fun _ => true⟩

/-- A command with its options, whether it takes a plain word, and what its arguments ask for, if
everything that is required is there. -/
structure Command where
  options : List OptionSpec
  wantsPlain : Bool
  request? : Arguments → Option Request

/-- The whole number of an option, or another one without it. -/
def wholeOf (a : Arguments) (name : String) (default : Int) : Int :=
  ((a.get? name).bind Reading.int?).getD default

/-- Builds an application. -/
def buildCommand : Command where
  options := helpOptions
  wantsPlain := true
  request? a := a.plain.map .build

/-- Sends a USB request. -/
def usbCommand : Command where
  options := helpOptions ++ [wholeOption "--request", wholeOption "--index", ⟨"--out", .switch⟩,
    textOption "--data"]
  wantsPlain := false
  request? a := some (.usb (wholeOf a "--request" UsbRequest.usualRequest)
    (wholeOf a "--index" UsbRequest.usualIndex) (a.get? "--out").isSome
    ((a.get? "--data").getD ""))

/-- Lists the serial ports. -/
def listCommand : Command where
  options := helpOptions
  wantsPlain := false
  request? _ := some .listPorts

/-- Whether a word is the name of an operator, spelt as it is named. -/
def isOperatorName (s : String) : Bool :=
  (Operator.ofName? s).any fun o => o.name == s

/-- Checks the output of a channel. -/
def expectCommand : Command where
  options := helpOptions ++ [⟨"--op", .value isOperatorName⟩, textOption "--expected",
    textOption "--write", ⟨"--timeout", .value fun s => (Reading.real? s).isSome⟩,
    wholeOption "--baud-rate"]
  wantsPlain := true
  request? a := do
    let channel ← a.plain
    let expected ← a.get? "--expected"
    return .expect channel ((a.get? "--op").getD Operator.contain.name) expected (a.get? "--write")
      (((a.get? "--timeout").bind Reading.real?).getD usualCheckTimeout.toBinary64)
      (wholeOf a "--baud-rate" SerialPort.defaultBaud)

/-- The command of a name. -/
def commandOf? : String → Option Command
  | "build" => some buildCommand
  | "usb-request" => some usbCommand
  | "serial-list" => some listCommand
  | "serial-expect" => some expectCommand
  | _ => none

/-- Reads the words that belong to a command. Words without a place count only if nothing else ends
the reading; `misplaced` tells of such words before the command. -/
def readCommand (misplaced : Bool) (command : Command) (words : List String) :
    Except Stop Request := do
  let a ← collect command.wantsPlain (← readWords command.options words) .none
  match command.request? a with
  | none => .error .wrong
  | some request => if misplaced || a.misplaced then .error .wrong else .ok request

/-- Reads a command line; the first plain word names the command. -/
def readRequest (misplaced : Bool) : List String → Except Stop Request
  | [] => .error .wrong
  | s :: rest =>
    if s = "--" then .error .wrong
    else
      match Word.read helpOptions s with
      | .error stop => .error stop
      | .ok (.plain name) =>
        match commandOf? name with
        | some command => readCommand misplaced command rest
        | none => .error .wrong
      | .ok (.known option attached) => .error (helpStop option attached)
      | .ok .divider => .error .wrong
      | .ok .unknown => readRequest true rest

end AcceptanceBench.CommandLine
