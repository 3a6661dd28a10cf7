import AcceptanceBench.Step.Device

/-!
Scripts on one serial port.
-/

namespace AcceptanceBench

/-- A step on a serial port. -/
inductive PortStep where
  | device (act : DeviceAct)
  | connect (context : String)
  | read
  | write (payload : Bytes) (context : String)
  | disconnect
  | settings

/-- A serial port on a bench. -/
structure PortBench where
  port : SerialPort
  bench : Bench

namespace PortBench

/-- The state with the rack of its bench replaced. -/
def withRack (rack : Rack) (s : PortBench) : PortBench :=
  { s with bench := { s.bench with toRack := rack } }

/-- Takes a step. -/
def perform (step : PortStep) (s : PortBench) : Except Error Reply × PortBench :=
  match step with
  | .device act =>
    let (reply, bench) := s.bench.perform act
    (.ok reply, { s with bench })
  | .connect context =>
    match s.port.connect context s.bench.toRack with
    | (.ok port, rack) => (.ok .nothing, { s.withRack rack with port })
    | (.error e, rack) => (.error e, s.withRack rack)
  | .read =>
    let (bytes, rack) := s.port.read s.bench.toRack
    (replyWith (fun bytes => .data (.bytes bytes)) bytes, s.withRack rack)
  | .write payload context =>
    let (count, rack) := s.port.write payload context s.bench.toRack
    (replyWith .count count, s.withRack rack)
  | .disconnect =>
    let (fault, port, rack) := s.port.disconnect s.bench.toRack
    let result := match fault with
      | some f => .error (.fault f)
      | none => .ok .nothing
    (result, { s.withRack rack with port })
  | .settings => (.ok (.port s.port), s)

/-- The answers to a script on a serial port. -/
def run (port : SerialPort) (ports : List Port) (steps : List PortStep) :
    List (StepAnswer PortBench) :=
  runSteps (fun step s => (Answer.ofAct perform step s).asStep) steps ⟨port, .make ports .usual⟩

end PortBench

end AcceptanceBench
