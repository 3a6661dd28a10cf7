import AcceptanceBench.CommandLine.Request
import AcceptanceBench.Step.Registry

/-!
Carrying out what a command line asks for. Errors of the bench are reported and give exit code 1;
anything else that is raised ends the command without a code.
-/

namespace AcceptanceBench.CommandLine

/-- What is around a command: the environment, what becomes of the process that it starts, and the
devices with their events while it waits. -/
structure World where
  environ : Table String
  process : Execution
  bench : Bench
  events : List (Scheduled DeviceAct)

/-- What a command has printed. -/
structure Printed where
  out : String
  err : String
  deriving Repr, DecidableEq

namespace Printed

/-- Nothing printed. -/
def none : Printed := ⟨"", ""⟩

/-- One more line of output. -/
def line (s : String) (p : Printed) : Printed := { p with out := p.out ++ s ++ "\n" }

/-- One more line of error output. -/
def errLine (s : String) (p : Printed) : Printed := { p with err := p.err ++ s ++ "\n" }

end Printed

/-- How a command has ended: its exit code or what it has raised, what it printed, how long it
waited, what it ran, and its bench. -/
structure Report where
  exit : Except Error Nat
  printed : Printed
  elapsed : Rat
  ran : List (List String)
  bench : Bench

/-- The line that reports an error. -/
def errorLine (e : Error) : String :=
  "Error: " ++ e.message

/-- Prints what a command has found, or the line for its error. -/
def Report.ofResult (w : World) (ran : List (List String)) (result : Except Error Printed)
    (describe : Error → String) : Report :=
  match result with
  | .ok printed => ⟨.ok 0, printed, 0, ran, w.bench⟩
  | .error e => ⟨.ok 1, Printed.none.errLine (describe e), 0, ran, w.bench⟩

/-- The line that reports a failed build. -/
def buildFailure (e : Error) : String :=
  match e.commandFailure? with
  | some failure =>
    "Build failed (exit " ++ (failure.code.map toString).getD "None" ++ "): " ++ e.message
  | none => errorLine e

/-- Builds and flashes an application, and prints what the tool printed unless that is nothing. -/
def runBuild (directory : String) (w : World) : Report :=
  let args := buildArguments usualBuildCommand directory
  let output := runCommand args ("CLI build " ++ directory) w.process
  .ofResult w [args]
    (output.map fun text => if text = "" then Printed.none else Printed.none.line text) buildFailure

/-- Sends a USB request and prints the reply in hexadecimal. -/
def runUsb (request index : Int) (hostToDevice : Bool) (data : String) (w : World) : Report :=
  match Text.Hex.readSpaced? data.toList with
  | none =>
    let line := "Error: --data is not valid hex: " ++ Text.Quoted.text data
    ⟨.ok 1, Printed.none.errLine line, 0, [], w.bench⟩
  | some payload =>
    let usb : UsbChannel := .make UsbChannel.usualCommand .system
    let r : UsbRequest :=
      { request := .number request, value := .number UsbRequest.usualValue,
        index := .number index, hostToDevice, payload }
    let (reply, _) := usb.send r ⟨w.process, .ok ""⟩
    .ofResult w [usb.call r] (reply.map fun bytes => Printed.none.line (Text.Hex.spell bytes))
      errorLine

/-- Prints the serial ports that the system knows. -/
def runListPorts (w : World) : Report :=
  let printed := match describePorts w.bench.ports with
    | [] => Printed.none.line "No serial ports found."
    | ports =>
      ports.foldl (fun p port => p.line ("  " ++ port))
        (Printed.none.line "Available serial ports:")
  ⟨.ok 0, printed, 0, [], w.bench⟩

/-- What a check of a channel's output has found, with the lines printed on the way, the time waited
and the channels. -/
structure Checked where
  result : Except Error Data
  printed : Printed
  elapsed : Rat
  registry : Registry

section Checking

variable [Clock]

/-- Writes to an open channel, if that is asked for, and waits for its output. -/
def writeAndCheck (channel : String) (wait : ChannelWait) (predicate : Except Error Predicate)
    (write : Option String) (events : List (Scheduled DeviceAct)) (g : Registry) : Checked :=
  let written : Except Error Int × Registry := match write with
    | some text => g.write channel (.text text)
    | none => (.ok 0, g)
  match written with
  | (.error e, g) => ⟨.error e, .none, 0, g⟩
  | (.ok _, g) =>
    let answer := g.waitFor (fun act g => g.perform (.device act)) predicate (some wait) events
    let result := match answer.result with
      | .ok (.data d) => .ok d
      | .ok _ => .ok (.text "")
      | .error e => .error e
    ⟨result, .none, (answer.waiting.map (·.elapsed)).getD 0, answer.after⟩

/-- Closes what was opened. After an error of the bench, channels that fail to close are only warned
of; after any other error nothing is closed. -/
def closeChecked (c : Checked) : Checked :=
  match c.result with
  | .ok d =>
    let (closed, g) := c.registry.closeAll
    { c with result := closed.map fun _ => d, registry := g }
  | .error e =>
    if e.isBench then
      let (closed, g) := c.registry.closeAll
      let printed := match closed with
        | .ok () => c.printed
        | .error warning => c.printed.errLine ("Warning: " ++ warning.message)
      { c with printed, registry := g }
    else c

/-- Opens a channel, checks its output and closes it. -/
def openAndCheck (channel operator expected : String) (write : Option String) (timeout : Binary64)
    (baud : Int) (events : List (Scheduled DeviceAct)) (g : Registry) : Checked :=
  match g.openChannel channel (.number baud) (.number SerialPort.defaultBits) with
  | (.error e, g) => ⟨.error e, .none, 0, g⟩
  | (.ok _, g) =>
    closeChecked (writeAndCheck channel ⟨channel, .real timeout⟩
      (Predicate.make (.operator operator (.text expected))) write events g)

/-- Checks the output of a channel while the scheduler runs. -/
def checkOutput (channel operator expected : String) (write : Option String) (timeout : Binary64)
    (baud : Int) (w : World) : Checked :=
  let checked := openAndCheck channel operator expected write timeout baud w.events
    (.make none w.environ true w.bench.start)
  let during := match checked.result with
    | .ok _ => none
    | .error e => some e.name
  let (left, bench) := checked.registry.bench.leave during
  let result := match left with
    | .ok () => checked.result
    | .error e => .error e
  { checked with result, registry := { checked.registry with bench } }

/-- Checks the output of a channel and prints the data that was found, bytes in hexadecimal. -/
def runExpect (channel operator expected : String) (write : Option String) (timeout : Binary64)
    (baud : Int) (w : World) : Report :=
  let c := checkOutput channel operator expected write timeout baud w
  let report (exit : Except Error Nat) (printed : Printed) : Report :=
    ⟨exit, printed, c.elapsed, [], c.registry.bench⟩
  match c.result with
  | .ok (.text s) => report (.ok 0) (c.printed.line s)
  | .ok (.bytes b) => report (.ok 0) (c.printed.line (Text.Hex.spell b))
  | .error e@(.lastMismatch _ _ _) => report (.ok 1) (c.printed.errLine ("Mismatch: " ++ e.message))
  | .error e =>
    if e.isBench then report (.ok 1) (c.printed.errLine (errorLine e))
    else report (.error e) c.printed

end Checking

/-- Carries out a request. -/
def Request.run [Clock] (w : World) : Request → Report
  | .build directory => runBuild directory w
  | .usb request index hostToDevice data => runUsb request index hostToDevice data w
  | .listPorts => runListPorts w
  | .expect channel operator expected write timeout baud =>
    runExpect channel operator expected write timeout baud w

/-- The exit code of a command line that is not carried out: 0 after help, and 2 if it is wrong. -/
def Stop.code : Stop → Nat
  | .help => 0
  | .wrong => 2

/-- Reads a command line and carries out what it asks for. -/
def run [Clock] (words : List String) (w : World) : Except Stop Report :=
  (readRequest false words).map (·.run w)

end AcceptanceBench.CommandLine
