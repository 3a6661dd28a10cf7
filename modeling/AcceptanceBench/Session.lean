import AcceptanceBench.Number.Reading
import AcceptanceBench.Registry
import AcceptanceBench.Usb

/-!
A session runs the steps of one scenario: it owns the channels, with the scheduler of their bench,
and the USB channel. Setting up starts the scheduler; tearing down clears the USB reply, closes
every channel and stops the scheduler, whatever fails on the way.
-/

namespace AcceptanceBench

/-- A session. `ran` and `slept` are the history of what was run and how long was slept. -/
structure Session where
  featureDirectory : String
  buildCommand : String
  bootDelay : Numeral
  checkTimeout : Numeral
  registry : Registry
  usb : UsbChannel
  ran : List (List String)
  slept : List Binary64

/-- The seconds that an output check waits, where nothing else is given. -/
def usualCheckTimeout : Numeral := .real (.ofQuotient false 3 1)

/-- The seconds that a device gets to boot, where nothing else is given. -/
def usualBootDelay : Numeral := .real (.ofQuotient false 2 1)

namespace Session

/-- The bench of the session. -/
def bench (s : Session) : Bench := s.registry.bench

/-- The session with its registry changed. -/
def onRegistry (change : Registry → Registry) (s : Session) : Session :=
  { s with registry := change s.registry }

/-- The session with its bench changed. -/
def onBench (change : Bench → Bench) (s : Session) : Session :=
  s.onRegistry (·.onBench change)

/-- The session with more entries in the log. -/
def noteAll (notices : List Notice) (s : Session) : Session :=
  s.onBench fun b => notices.foldl (fun b n => b.note n) b

/-- Does something to the registry of the session. -/
def withRegistry {α : Type} (act : Registry → α × Registry) (s : Session) : α × Session :=
  let (a, registry) := act s.registry
  (a, { s with registry })

/-- Does something to the bench of the session. -/
def withBench {α : Type} (act : Bench → α × Bench) (s : Session) : α × Session :=
  let (a, bench) := act s.bench
  (a, s.onBench fun _ => bench)

/-! ### Beginning and end -/

/-- Starts the scheduler. -/
def setUp (s : Session) : Session :=
  s.onBench Bench.start

/-- Clears the USB reply, closes every channel and stops the scheduler. If a channel failed to
close, that is the error, and a failing stop is only logged. -/
def tearDown (s : Session) : Except Error Unit × Session :=
  let cleared := { s with usb := s.usb.reset }
  match cleared.withRegistry Registry.closeAll with
  | (.ok (), s) => s.withBench (Bench.stop Scheduler.joinTimeout)
  | (.error e, s) =>
    let (stopped, s) := (s.noteAll [.teardownFailed e]).withBench
      (Bench.stop Scheduler.joinTimeout)
    match stopped with
    | .ok () => (.error e, s)
    | .error stopError => (.error e, s.noteAll [.teardownFailed stopError])

/-- Ends the session after a block of work that came to a result. An error in tearing it down takes
the place of what the work came to. -/
def leave {α : Type} (result : Except Error α) (s : Session) : Except Error α × Session :=
  match s.tearDown with
  | (.ok (), s) => (result, s)
  | (.error e, s) => (.error e, s)

/-! ### Applications and pauses -/

/-- Builds and flashes an application below the feature directory, then sleeps for the boot delay.
-/
def givenApplication (directory : String) (process : Execution) (s : Session) :
    Except Error String × Session :=
  let args := buildArguments s.buildCommand (Text.Shell.under s.featureDirectory directory)
  let output := runCommand args ("application " ++ directory) process
  let ran := { s with ran := s.ran ++ [args] }.noteAll (commandNotices output)
  match output with
  | .error e => (.error e, ran)
  | .ok text =>
    if !(0 < s.bootDelay.value) then (.ok text, ran)
    else if s.bootDelay.isTooLarge then (.error .numberTooLarge, ran)
    else (.ok text, { ran with slept := ran.slept ++ [s.bootDelay.toBinary64] })

/-- How long to pause, as a number or as its text. -/
inductive Amount where
  | number (n : Numeral)
  | text (s : String)
  deriving Repr, DecidableEq

/-- The number of an amount. -/
def Amount.read : Amount → Except Error Binary64
  | .number n => if n.isTooLarge then .error .numberTooLarge else .ok n.toBinary64
  | .text s =>
    match Reading.real? s with
    | some x => .ok x
    | none => .error (.unreadableNumber s)

/-- The seconds in a unit of time. -/
def unitScale? : String → Option Binary64
  | "second" | "seconds" => some (.ofQuotient false 1 1)
  | "millisecond" | "milliseconds" => some (.ofQuotient false 1 1000)
  | _ => none

/-- Sleeps for an amount of a unit of time, which must not be negative. -/
def pause (amount : Amount) (unit : String) (s : Session) : Except Error Unit × Session :=
  match unitScale? unit with
  | none => (.error (.unknownUnit unit), s)
  | some scale =>
    match amount.read with
    | .error e => (.error e, s)
    | .ok x =>
      let seconds := x.mul scale
      if seconds.isNegative then (.error .negativeSleep, s)
      else (.ok (), { s with slept := s.slept ++ [seconds] })

/-! ### Serial and USB -/

/-- Opens a channel. A rate of zero stands for the usual rate. -/
def openSerial (port : String) (baud : Option Whole) (s : Session) : Except Error Unit × Session :=
  let rate := match baud with
    | some n => if n.toInt = 0 then .number SerialPort.defaultBaud else n
    | none => .number SerialPort.defaultBaud
  let (opened, s) :=
    s.withRegistry (Registry.openChannel port rate (.number SerialPort.defaultBits))
  (opened.map fun _ => (), s)

/-- Sends data to a channel. -/
def writeSerial (port : String) (data : Data) (s : Session) : Except Error Unit × Session :=
  let (count, s) := s.withRegistry (Registry.write port data)
  (count.map fun _ => (), s)

/-- Sends a USB test request with the usual code and value. -/
def sendUsb (data : Data) (index : Option Whole) (hostToDevice : Bool) (tool : ToolOutcome)
    (s : Session) : Except Error Bytes × Session :=
  let request : UsbRequest :=
    { request := .number UsbRequest.usualRequest, value := .number UsbRequest.usualValue,
      index := index.getD (.number UsbRequest.usualIndex), hostToDevice, payload := data.toBytes }
  let (result, usb) := s.usb.send request tool
  let s := { s with usb, ran := s.ran ++ [s.usb.call request] }
  (result, s.noteAll (s.usb.notices result))

/-- Demands a relation of the last USB reply. -/
def usbReplyShould (operator : String) (expected : String) (s : Session) : Except Error Unit := do
  let reply ← s.usb.take
  expect (.bytes reply) (.text expected) operator

end Session

end AcceptanceBench
