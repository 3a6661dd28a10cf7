import AcceptanceBench.Argument
import AcceptanceBench.Mismatch
import AcceptanceBench.Number.Reading
import AcceptanceBench.Pattern.Token
import AcceptanceBench.Table

/-!
What can go wrong at a bench, by cause. Faults are raised by devices, by tools and by callbacks;
every other cause is found by the bench itself.
-/

namespace AcceptanceBench

/-- The kinds of fault that a device, a tool or a callback raises. -/
inductive FaultKind where
  | transport
  | serialCommunication
  | scheduler
  | value
  | runtime
  | system
  | assertion
  | serialPort
  | serialTimeout
  | command
  deriving Repr, DecidableEq

namespace FaultKind

/-- The name of a kind, as reports give it. -/
def name : FaultKind → String
  | .transport => "TransportError"
  | .serialCommunication => "SerialCommunicationError"
  | .scheduler => "SchedulerError"
  | .value => "ValueError"
  | .runtime => "RuntimeError"
  | .system => "OSError"
  | .assertion => "AssertionError"
  | .serialPort => "SerialException"
  | .serialTimeout => "SerialTimeoutException"
  | .command => "ExternalCommandError"

/-- Whether a transport reports its own failures this way. -/
def isTransport : FaultKind → Bool
  | .transport | .serialCommunication => true
  | _ => false

/-- Whether the system reports failing input and output this way; serial ports do so too. -/
def isSystem : FaultKind → Bool
  | .system | .serialPort | .serialTimeout => true
  | _ => false

/-- Whether the bench has a cause of this kind of its own. -/
def isBench : FaultKind → Bool
  | .transport | .serialCommunication | .scheduler | .command => true
  | _ => false

end FaultKind

/-- A fault with its text. -/
structure Fault where
  kind : FaultKind
  text : String
  deriving Repr, DecidableEq

/-- How a command failed: its command line, its exit code unless it never started, and what it
printed. -/
structure CommandFailure where
  command : String
  code : Option Int
  stdout : String
  stderr : String
  deriving Repr, DecidableEq

/-- What can go wrong. -/
inductive Error where
  /-- An argument has another type than the operation declares. -/
  | wrongType
  /-- Something that the bench uses raised a fault. -/
  | fault (f : Fault)
  /-- A comparison operator is not one of the known names. -/
  | unknownOperator (given : Argument)
  /-- A pattern cannot be read; `text` tells patterns for texts from those for bytes. -/
  | badPattern (defect : Pattern.Defect) (text : Bool)
  /-- A pattern matches in such a way that a group ends before it begins. -/
  | crossedGroup
  /-- An expectation does not hold. -/
  | expectation (m : Mismatch)
  /-- A wait ended without a match, and this is the latest detail. -/
  | lastMismatch (buffer : String) (elapsed : Rat) (m : Mismatch)
  /-- A wait ended without a match, and no check gave a detail. -/
  | noMatch (buffer : String) (timeout : Numeral) (observed : Data)
  | alreadyOpen (channel : String)
  | notOpen (channel : String)
  | unknownChannel (channel : Argument) (configured : List String)
  | missingVariable (name : Argument)
  /-- Some of `total` channels failed to close. -/
  | closing (total : Nat) (failures : List (String × Fault))
  | badInterval (interval : Numeral)
  | notRunning (subscriber thread : String)
  | didNotExit (thread : String) (timeout : Numeral)
  | badBaudRate (port : String) (baud : Numeral)
  | badWriteTimeout (port : String) (timeout : Numeral)
  | badLineSetting (name value port : String) (supported : List String)
  | cannotOpen (context port : String) (baud : Numeral) (reason : Fault) (ports : List String)
  | readClosed (port : String)
  | readFailed (port : String) (reason : Fault)
  | writeClosed (context port : String)
  | writeFailed (context port : String) (reason : Fault)
  | shortWrite (context port : String) (written : Int) (size : Nat)
  /-- The first or last item of a list was asked for that has none. -/
  | emptyList
  | cannotStart (context : String) (failure : CommandFailure)
  | commandFailed (context : String) (code : Int) (failure : CommandFailure)
  | badReply (context output : String)
  | noReply
  | unknownUnit (unit : String)
  | unreadableNumber (text : String)
  | numberTooLarge
  /-- The clock refuses a sleep as too long. -/
  | sleepTooLong
  | negativeSleep
  deriving Repr, DecidableEq

namespace Error

/-- Names in a list, with commas between them. -/
def listed (names : List String) : String :=
  ", ".intercalate names

/-- Names in a list, or a word in place of an empty list. -/
def listedOr (word : String) (names : List String) : String :=
  if listed names = "" then word else listed names

/-- The operators that exist, quoted. -/
def operatorNames : List String :=
  ["'be'", "'contain'", "'match'", "'start with'", "'end with'"]

/-- What an error says. -/
def message : Error → String
  | .wrongType => ""
  | .fault f => f.text
  | .unknownOperator given =>
    "Unknown operation: " ++ given.literal ++ ". Must be one of: "
      ++ listed operatorNames ++ "."
  | .badPattern .malformed _ => ""
  | .badPattern .repetitionTooLarge _ => "the repetition number is too large"
  | .badPattern (.tooManyDigits digits) _ =>
    "Exceeds the limit (" ++ toString Reading.digitLimit
      ++ " digits) for integer string conversion: value has " ++ toString digits
      ++ " digits; use sys.set_int_max_str_digits() to increase the limit"
  | .badPattern .looksBackTooFar _ => "invalid SRE code"
  | .crossedGroup =>
    "The span of capturing group is wrong, please report a bug for the re module."
  | .badPattern .switchesClash text =>
    if text then "ASCII and UNICODE flags are incompatible"
    else "ASCII and LOCALE flags are incompatible"
  | .expectation m => m.describe
  | .lastMismatch buffer elapsed m =>
    buffer ++ " output doesn't match after " ++ fixed 2 elapsed ++ "s: " ++ m.describe
  | .noMatch buffer timeout observed =>
    buffer ++ " output doesn't match expected data (no match within " ++ timeout.fixed 2
      ++ "s, observed " ++ observed.quoted ++ ")"
  | .alreadyOpen channel => "Serial port is already open: " ++ channel
  | .notOpen channel => "Serial port is not open: " ++ channel
  | .unknownChannel channel configured =>
    "Unknown serial port: " ++ channel.plain ++ ". Configured channels: "
      ++ listedOr "(none)" configured ++ "."
  | .missingVariable name => "Environment variable is not defined: " ++ name.plain
  | .closing total failures =>
    let (name, text) := match failures with
      | (name, f) :: _ => (name, f.text)
      | [] => ("", "")
    "Failed to close " ++ toString failures.length ++ " of " ++ toString total
      ++ " channel(s); first failure on " ++ name ++ ": " ++ text
  | .badInterval interval =>
    "Invalid poll_interval_s " ++ interval.literal ++ ": must be a positive number of seconds."
  | .notRunning subscriber thread =>
    "Cannot subscribe " ++ subscriber ++ ": I/O scheduler " ++ thread
      ++ " is not running. Call start() first."
  | .didNotExit thread timeout =>
    "I/O thread " ++ thread ++ " did not exit within " ++ timeout.fixed 1 ++ "s"
  | .badBaudRate port baud =>
    "Baud rate must be positive for " ++ port ++ ", got " ++ baud.literal
  | .badWriteTimeout port timeout =>
    "write_timeout must be None or >= 0 for " ++ port ++ ", got " ++ timeout.literal
  | .badLineSetting name value port supported =>
    "Unsupported " ++ name ++ " " ++ value ++ " for " ++ port ++ " (supported: "
      ++ listed supported ++ ")"
  | .cannotOpen context port baud reason ports =>
    "[" ++ context ++ "] Cannot open " ++ port ++ " at " ++ baud.literal ++ " baud: "
      ++ reason.text ++ " (available ports: " ++ listedOr "none" ports ++ ")"
  | .readClosed port => "Cannot read from " ++ port ++ ": port is not open"
  | .readFailed port reason => "Read from " ++ port ++ " failed: " ++ reason.text
  | .writeClosed context port =>
    "[" ++ context ++ "] Cannot write to " ++ port ++ ": port is not open"
  | .writeFailed context port reason =>
    "[" ++ context ++ "] Write to " ++ port ++ " failed: " ++ reason.text
  | .shortWrite context port written size =>
    "[" ++ context ++ "] Short write on " ++ port ++ ": " ++ toString written ++ " of "
      ++ toString size ++ " bytes"
  | .emptyList => "list index out of range"
  | .cannotStart context failure =>
    "[" ++ context ++ "] Cannot run external command " ++ failure.command ++ ": "
      ++ failure.stderr
  | .commandFailed context code failure =>
    "[" ++ context ++ "] External command has finished with an error (exit code: "
      ++ toString code ++ "): " ++ failure.command ++ "\n" ++ Text.trimEnd failure.stderr
  | .badReply context output =>
    "[" ++ context ++ "] Reply is not valid hex: "
      ++ Text.Quoted.text (String.ofList (output.toList.take 80))
  | .noReply => "No reply data available: no USB request has been sent since the last reset"
  | .unknownUnit unit =>
    "Unknown time unit " ++ Text.Quoted.text unit
      ++ ". Must be one of: millisecond, milliseconds, second, seconds."
  | .unreadableNumber text => "could not convert string to float: " ++ Text.Quoted.text text
  | .numberTooLarge => "int too large to convert to float"
  | .sleepTooLong => "timestamp out of range for platform time_t"
  | .negativeSleep => "sleep length must be non-negative"

/-- The name of an error, as reports give it. -/
def name : Error → String
  | .wrongType => "TypeCheckError"
  | .fault f => f.kind.name
  | .unknownOperator _ => "UnknownOperatorError"
  | .badPattern .malformed _ => "re.error"
  | .badPattern .repetitionTooLarge _ | .numberTooLarge | .sleepTooLong => "OverflowError"
  | .badPattern .looksBackTooFar _ => "RuntimeError"
  | .crossedGroup => "SystemError"
  | .badPattern .switchesClash _ | .badPattern (.tooManyDigits _) _ | .unreadableNumber _
  | .negativeSleep => "ValueError"
  | .expectation _ => "ExpectationError"
  | .lastMismatch _ _ _ => "LastMismatchError"
  | .noMatch _ _ _ => "TimeoutNoMatchError"
  | .alreadyOpen _ => "AlreadyOpenError"
  | .notOpen _ => "NotOpenError"
  | .unknownChannel _ _ => "UnknownChannelError"
  | .missingVariable _ => "MissingConfigError"
  | .closing _ _ => "ChannelCloseError"
  | .badInterval _ | .notRunning _ _ | .didNotExit _ _ => "SchedulerError"
  | .badBaudRate _ _ | .badWriteTimeout _ _ | .badLineSetting _ _ _ _ | .cannotOpen _ _ _ _ _
  | .readClosed _ | .readFailed _ _ | .writeClosed _ _ | .writeFailed _ _ _
  | .shortWrite _ _ _ _ => "SerialCommunicationError"
  | .emptyList => "IndexError"
  | .cannotStart _ _ | .commandFailed _ _ _ => "ExternalCommandError"
  | .badReply _ _ => "TransportError"
  | .noReply => "NoReplyError"
  | .unknownUnit _ => "HilAcceptError"

/-- Whether the error is one of the bench's own, which the command line reports. -/
def isBench : Error → Bool
  | .fault f => f.kind.isBench
  | .wrongType | .badPattern _ _ | .crossedGroup | .expectation _ | .emptyList
  | .unreadableNumber _ | .numberTooLarge | .sleepTooLong | .negativeSleep => false
  | _ => true

/-- Whether the error says that something does not hold, which a wait takes as a detail. -/
def isAssertion : Error → Bool
  | .expectation _ => true
  | .fault f => f.kind == .assertion
  | _ => false

/-- The failure of a command, if that is the error. A tool that raises a fault is reported as the
tool of the bench, without a device. -/
def commandFailure? : Error → Option CommandFailure
  | .cannotStart _ failure | .commandFailed _ _ failure => some failure
  | .fault f =>
    if f.kind = .command then some ⟨"tool", some 2, "", "no device"⟩ else none
  | _ => none

end Error

end AcceptanceBench
