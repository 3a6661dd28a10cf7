import AcceptanceBench.Device
import AcceptanceBench.Text.LetterCase

/-!
Serial ports. The line settings are checked when a port is made; the device is touched only once the
port is opened. Failures of the system become errors that name the port, and anything else that the
device raises is passed on.
-/

namespace AcceptanceBench

/-- A serial port with its line settings. `held` tells whether it was opened and not closed since;
the device may be gone all the same. -/
structure SerialPort where
  port : String
  baud : Numeral
  bits : Int
  parity : String
  stopBits : Int
  writeTimeout : Option Numeral
  held : Bool
  deriving Repr, DecidableEq

namespace SerialPort

/-- The baud rate of a port for which none is given. -/
def defaultBaud : Int := 9600

/-- The data bits of a port for which none are given. -/
def defaultBits : Int := 8

/-- The parity of a port for which none is given. -/
def defaultParity : String := "N"

/-- The stop bits of a port for which none are given. -/
def defaultStopBits : Int := 1

/-- The read timeout: reading never blocks. -/
def readTimeout : Int := 0

/-- The seconds after which a write gives up, where nothing else is given. -/
def defaultWriteTimeout : Int := 10

/-- The whole number among the supported ones that a setting equals, if there is one. -/
def choose? (supported : List Int) : Argument → Option Int
  | .number n => supported.find? fun k => n.value == (k : Rat)
  | _ => none

/-- A numeric line setting, which has to be one of the supported ones. -/
def lineSetting (name : String) (given : Argument) (supported : List Int) (port : String) :
    Except Error Int :=
  match choose? supported given with
  | some n => .ok n
  | none => .error (.badLineSetting name given.literal port (supported.map toString))

/-- The parities that exist: none, even and odd. -/
def parities : List String := ["N", "E", "O"]

/-- The parity that a letter of either case stands for. -/
def paritySetting (given port : String) : Except Error String :=
  let letter := Text.upper given
  if parities.contains letter then .ok letter
  else .error (.badLineSetting "parity" (Text.Quoted.text letter) port
    (parities.map Text.Quoted.text))

/-- A port that was not opened yet. Its settings are checked in this order: rate, write timeout,
data bits, parity, stop bits. -/
def make (port : String) (baud : Numeral) (bits : Argument) (parity : String) (stopBits : Argument)
    (writeTimeout : Option Numeral) : Except Error SerialPort := do
  if baud.value ≤ 0 then .error (.badBaudRate port baud)
  match writeTimeout with
  | some t => if t.value < 0 then .error (.badWriteTimeout port t)
  | none => pure ()
  let bits ← lineSetting "bytesize" bits [5, 6, 7, 8] port
  let parity ← paritySetting parity port
  let stopBits ← lineSetting "stopbits" stopBits [1, 2] port
  return { port, baud, bits, parity, stopBits, writeTimeout, held := false }

/-- How reports show a port. -/
def literal (p : SerialPort) : String :=
  "SerialPortTransport(" ++ Text.Quoted.text p.port ++ ", baud_rate=" ++ p.baud.literal ++ ")"

/-- The settings that the device is opened with. -/
def opening (p : SerialPort) : Opening :=
  .serial p.port p.baud (.whole p.bits) p.parity (.whole p.stopBits) (.whole readTimeout)
    p.writeTimeout

/-- Whether the port is open. -/
def isOpen (p : SerialPort) (r : Rack) : Bool :=
  p.held && (r.device p.port).isOpen

/-- Opens the port. An open port is left alone; a failure names the ports that the system knows. -/
def connect (p : SerialPort) (context : String) (r : Rack) : Except Error SerialPort × Rack :=
  if p.isOpen r then (.ok p, r)
  else
    match (r.device p.port).fault .openStage with
    | none => (.ok { p with held := true }, r.alter p.port (.opened p.opening))
    | some f =>
      if f.kind.isSystem then
        let e := .cannotOpen context p.port p.baud f (r.ports.map Port.device)
        (.error e, r.note (.portNotOpened e))
      else (.error (.fault f), r)

/-- Takes everything that has arrived, nothing if nothing has. A failed read takes nothing. -/
def read (p : SerialPort) (r : Rack) : Except Error Bytes × Rack :=
  if !p.held then (.error (.readClosed p.port), r)
  else
    let device := r.device p.port
    match device.fault .read with
    | none =>
      match device.queue.flatten with
      | [] => (.ok [], r)
      | bytes => (.ok bytes, r.alter p.port fun d => { d with queue := [] })
    | some f =>
      if f.kind.isSystem then (.error (.readFailed p.port f), r.note (.portReadFailed p.port f))
      else (.error (.fault f), r)

/-- Sends a payload in full and waits until it is out. -/
def write (p : SerialPort) (payload : Bytes) (context : String) (r : Rack) :
    Except Error Int × Rack :=
  if !p.isOpen r then (.error (.writeClosed context p.port), r)
  else
    let device := r.device p.port
    let failed (f : Fault) (r : Rack) : Except Error Int × Rack :=
      if f.kind.isSystem then
        (.error (.writeFailed context p.port f), r.note (.portWriteFailed context p.port f))
      else (.error (.fault f), r)
    match device.fault .write with
    | some f => failed f r
    | none =>
      let sent := r.alter p.port (.record payload)
      match device.fault .flush with
      | some f => failed f sent
      | none =>
        let count := device.writeCount payload
        if count = payload.length then (.ok count, sent)
        else (.error (.shortWrite context p.port count payload.length), sent)

/-- Closes the port; a closed port is left alone. The port is closed even if the device raises a
fault. -/
def disconnect (p : SerialPort) (r : Rack) : Option Fault × SerialPort × Rack :=
  if p.held then
    ((r.device p.port).fault .close, { p with held := false }, r.alter p.port .closed)
  else (none, p, r)

end SerialPort

end AcceptanceBench
