import AcceptanceBench.Command
import AcceptanceBench.Number.Numeral

/-!
USB control requests. Each request runs a transfer tool, to which the payload goes as hexadecimal
digits and from which the reply comes back the same way. The reply to the latest request that
succeeded is kept.
-/

namespace AcceptanceBench

/-- One control request. -/
structure UsbRequest where
  request : Whole
  value : Whole
  index : Whole
  hostToDevice : Bool
  payload : Bytes
  deriving Repr, DecidableEq

namespace UsbRequest

/-- The request code where no other is given. -/
def usualRequest : Int := 80

/-- The value where no other is given. -/
def usualValue : Int := 0

/-- The index where no other is given. -/
def usualIndex : Int := 60

/-- The arguments that the tool gets for a request. -/
def arguments (command : String) (r : UsbRequest) : List String :=
  [command, "-r", r.request.literal, "-v", r.value.literal, "-i", r.index.literal]
    ++ (if r.hostToDevice then ["-d", "out"] else []) ++ ["-x", Text.Hex.spell r.payload]

/-- What a request is for, as errors tell it. -/
def context (r : UsbRequest) : String :=
  "USB request " ++ r.request.literal ++ " (value=" ++ r.value.literal ++ ", index="
    ++ r.index.literal ++ ", " ++ (if r.hostToDevice then "host-to-device" else "device-to-host")
    ++ ")"

/-- The reply that a tool's output spells; blanks anywhere in it count for nothing. -/
def reply (r : UsbRequest) (output : String) : Except Error Bytes :=
  match Text.Hex.read? (Text.squeeze output) with
  | some bytes => .ok bytes
  | none => .error (.badReply r.context output)

end UsbRequest

/-- What runs the transfer tool: the system, or a script that answers in its place. -/
inductive Runner where
  | system
  | scripted
  deriving Repr, DecidableEq

/-- What becomes of the transfer tool: of its process, and of the script's answer. -/
structure ToolOutcome where
  process : Execution
  answer : Except Fault String

/-- A channel for USB requests with the last reply. -/
structure UsbChannel where
  command : String
  runner : Runner
  reply : Option Bytes
  deriving Repr, DecidableEq

namespace UsbChannel

/-- The transfer tool where no other is given. -/
def usualCommand : String := "send_usb_req"

/-- A channel without a reply. -/
def make (command : String) (runner : Runner) : UsbChannel := ⟨command, runner, none⟩

/-- What the runner is called with: the arguments, and for a script the context before them. -/
def call (u : UsbChannel) (r : UsbRequest) : List String :=
  match u.runner with
  | .system => r.arguments u.command
  | .scripted => r.context :: r.arguments u.command

/-- What the runner answers. -/
def output (u : UsbChannel) (r : UsbRequest) (tool : ToolOutcome) : Except Error String :=
  match u.runner with
  | .system => runCommand (r.arguments u.command) r.context tool.process
  | .scripted =>
    match tool.answer with
    | .ok text => .ok text
    | .error f => .error (.fault f)

/-- Sends a request and keeps its reply. A request that fails leaves the reply as it was. -/
def send (r : UsbRequest) (tool : ToolOutcome) (u : UsbChannel) : Except Error Bytes × UsbChannel :=
  match u.output r tool with
  | .error e => (.error e, u)
  | .ok output =>
    match r.reply output with
    | .error e => (.error e, u)
    | .ok bytes => (.ok bytes, { u with reply := some bytes })

/-- What a request leaves in the log. -/
def notices (u : UsbChannel) : Except Error Bytes → List Notice
  | .error e@(.badReply _ _) => [.badReply e]
  | .error e =>
    match u.runner with
    | .system => commandNotices (.error e)
    | .scripted => []
  | .ok _ => []

/-- The last reply, which has to be there. Taking it leaves it there. -/
def take (u : UsbChannel) : Except Error Bytes :=
  match u.reply with
  | some bytes => .ok bytes
  | none => .error .noReply

/-- Whether there is a last reply; an empty one counts. -/
def hasReply (u : UsbChannel) : Bool :=
  u.reply.isSome

/-- The channel without a reply. -/
def reset (u : UsbChannel) : UsbChannel :=
  { u with reply := none }

end UsbChannel

end AcceptanceBench
