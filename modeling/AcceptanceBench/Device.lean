import AcceptanceBench.Notice
import AcceptanceBench.Total

/-!
Devices under test, as the bench sees them: a queue of chunks that have arrived, faults that may be
set, and a record of what was done to the device. The rack holds the devices by endpoint, with the
serial ports that the system knows and the log.
-/

namespace AcceptanceBench

/-- The stages of using a device at which a fault can be set. -/
inductive Stage where
  | factory
  | openStage
  | read
  | write
  | flush
  | close
  deriving Repr, DecidableEq

/-- What a device was opened with: the plain link's rate, bits and context, or the line settings of
a serial port. -/
inductive Opening where
  | plain (baud bits : Option Whole) (context : String)
  | serial (port : String) (baud bits : Numeral) (parity : String) (stopBits timeout : Numeral)
      (writeTimeout : Option Numeral)
  deriving Repr, DecidableEq

/-- A device. `sent` are all chunks that it ever sent, `queue` those of them that are still to be
read. `short`, if set, is what writes answer in place of the length. -/
structure Device where
  sent : List Bytes
  queue : List Bytes
  echo : Bool
  short : Option Int
  fault : Stage → Option Fault
  isOpen : Bool
  opens : Nat
  closes : Nat
  opening : Option Opening
  written : List Bytes

namespace Device

/-- A new device. -/
def fresh : Device :=
  { sent := [], queue := [], echo := false, short := none, fault := fun _ => none, isOpen := false,
    opens := 0, closes := 0, opening := none, written := [] }

/-- The device after it has sent more chunks. -/
def feed (chunks : List Bytes) (d : Device) : Device :=
  { d with sent := d.sent ++ chunks, queue := d.queue ++ chunks }

/-- The device with a fault set or cleared. -/
def setFault (stage : Stage) (fault : Option Fault) (d : Device) : Device :=
  { d with fault := fun s => if s = stage then fault else d.fault s }

/-- The device after it was opened. -/
def opened (opening : Opening) (d : Device) : Device :=
  { d with isOpen := true, opens := d.opens + 1, opening := some opening }

/-- The device after it was closed. -/
def closed (d : Device) : Device :=
  { d with isOpen := false, closes := d.closes + 1 }

/-- The device after a payload was written; an echoing device sends it back as one chunk. -/
def record (payload : Bytes) (d : Device) : Device :=
  let d := { d with written := d.written ++ [payload] }
  if d.echo then d.feed [payload] else d

/-- What a write answers. -/
def writeCount (payload : Bytes) (d : Device) : Int :=
  d.short.getD payload.length

end Device

/-- A serial port that the system knows. -/
structure Port where
  device : String
  description : String
  deriving Repr, DecidableEq

/-- The devices by endpoint, the ports that the system knows, and the log. -/
structure Rack where
  devices : Table Device
  ports : List Port
  log : List Notice

namespace Rack

/-- A rack without devices. -/
def empty (ports : List Port) : Rack := ⟨.empty, ports, []⟩

/-- The device at an endpoint; one that was never named is new. -/
def device (r : Rack) (endpoint : String) : Device :=
  (r.devices.get? endpoint).getD .fresh

/-- The rack with one device changed. -/
def alter (r : Rack) (endpoint : String) (change : Device → Device) : Rack :=
  { r with devices := r.devices.alter endpoint .fresh change }

/-- Changing one device leaves every other one as it is. -/
theorem device_alter (r : Rack) (endpoint other : String) (change : Device → Device) :
    (r.alter endpoint change).device other =
      if other = endpoint then change (r.device endpoint) else r.device other := by
  unfold device alter
  rw [Table.get?_alter]
  split <;> simp

/-- The rack with one more entry in the log. -/
def note (r : Rack) (n : Notice) : Rack :=
  { r with log := r.log ++ [n] }

/-- The chunks that wait on all devices. -/
def queued (r : Rack) : Nat :=
  total (fun e => e.2.queue.length) r.devices.entries

end Rack

/-- The ports that the system knows, each with its description. -/
def describePorts (ports : List Port) : List String :=
  ports.map fun p => p.device ++ " — " ++ p.description

end AcceptanceBench
