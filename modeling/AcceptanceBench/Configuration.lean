import AcceptanceBench.Notice

/-!
Where the devices of a bench are configured: a channel is configured by the name of an environment
variable, and the variable holds the device's path. Both are looked up only when they are needed.
-/

namespace AcceptanceBench

/-- Channels with the names of the variables that hold their device paths. A channel without a
variable is listed, but it cannot be used. -/
abbrev Channels := Table Argument

/-- The usual channels and their variables. -/
def usualVariables : List (String × String) :=
  [("Serial", "HIL_SERIAL_DEV"), ("Serial1", "HIL_SERIAL1_DEV"),
    ("USBSerial1", "HIL_USB_SERIAL1_DEV")]

/-- The usual channels. -/
def usualChannels : Channels :=
  .ofList (usualVariables.map fun (channel, name) => (channel, .text name))

/-- The value of an environment variable, which has to be defined. -/
def variableValue (environ : Table String) (name : Argument) : Except Error String :=
  match name.text?.bind environ.get? with
  | some value => .ok value
  | none => .error (.missingVariable name)

/-- The device path of a channel, which has to be configured. -/
def devicePath (channels : Channels) (environ : Table String) (channel : Argument) :
    Except Error String :=
  match channel.text?.bind channels.get? with
  | none | some .absent =>
    .error (.unknownChannel channel (channels.names.mergeSort fun a b => a ≤ b))
  | some name => variableValue environ name

/-- What a lookup leaves in the log: an undefined variable is reported. -/
def lookupNotices : Except Error String → List Notice
  | .error e@(.missingVariable _) => [.undefinedVariable e]
  | _ => []

end AcceptanceBench
