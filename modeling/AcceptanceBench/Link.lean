import AcceptanceBench.SerialPort

/-!
Links carry bytes between a channel and its device: a serial port, or a plain link that passes every
fault of the device on as it is.
-/

namespace AcceptanceBench

/-- A link to a device. -/
inductive Link where
  | plain (endpoint : String) (baud bits : Option Whole)
  | serial (port : SerialPort)
  deriving Repr, DecidableEq

namespace Link

/-- The endpoint of the device. -/
def endpoint : Link → String
  | .plain endpoint _ _ => endpoint
  | .serial p => p.port

/-- A plain link, which the device may refuse. -/
def makePlain (endpoint : String) (baud bits : Option Whole) (r : Rack) : Except Error Link :=
  match (r.device endpoint).fault .factory with
  | some f => .error (.fault f)
  | none => .ok (.plain endpoint baud bits)

/-- A serial link with the given rate and data bits. -/
def makeSerial (endpoint : String) (baud bits : Whole) : Except Error Link := do
  return .serial (← SerialPort.make endpoint (.whole baud) (.number (.whole bits))
    SerialPort.defaultParity (.number (.whole SerialPort.defaultStopBits))
    (some (.whole SerialPort.defaultWriteTimeout)))

/-- Opens the link. -/
def connect (link : Link) (context : String) (r : Rack) : Except Error Link × Rack :=
  match link with
  | .plain endpoint baud bits =>
    match (r.device endpoint).fault .openStage with
    | some f => (.error (.fault f), r)
    | none => (.ok link, r.alter endpoint (.opened (.plain baud bits context)))
  | .serial p =>
    match p.connect context r with
    | (.ok p, r) => (.ok (.serial p), r)
    | (.error e, r) => (.error e, r)

/-- Takes what has arrived: the next chunk on a plain link, everything on a serial one. -/
def read (link : Link) (r : Rack) : Except Error Bytes × Rack :=
  match link with
  | .plain endpoint _ _ =>
    let device := r.device endpoint
    match device.fault .read, device.queue with
    | some f, _ => (.error (.fault f), r)
    | none, [] => (.ok [], r)
    | none, chunk :: rest => (.ok chunk, r.alter endpoint fun d => { d with queue := rest })
  | .serial p => p.read r

/-- Sends a payload. -/
def write (link : Link) (payload : Bytes) (context : String) (r : Rack) :
    Except Error Int × Rack :=
  match link with
  | .plain endpoint _ _ =>
    let device := r.device endpoint
    match device.fault .write with
    | some f => (.error (.fault f), r)
    | none => (.ok (device.writeCount payload), r.alter endpoint (.record payload))
  | .serial p => p.write payload context r

/-- Closes the link; the device may raise a fault once it is closed. -/
def disconnect (link : Link) (r : Rack) : Option Fault × Rack :=
  match link with
  | .plain endpoint _ _ =>
    ((r.device endpoint).fault .close, r.alter endpoint .closed)
  | .serial p =>
    let (fault, _, r) := p.disconnect r
    (fault, r)

end Link

end AcceptanceBench
