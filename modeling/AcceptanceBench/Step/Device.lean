import AcceptanceBench.Polling
import AcceptanceBench.Step.Answer

/-!
Acts on the devices of a bench, which scripts take in place of the world around it.
-/

namespace AcceptanceBench

/-- An act on a device, or on the thread that polls the devices. -/
inductive DeviceAct where
  | feed (endpoint : String) (chunks : List Bytes)
  | setFault (endpoint : String) (stage : Stage) (fault : Option Fault)
  | echo (endpoint : String)
  | short (endpoint : String) (count : Option Int)
  | unplug (endpoint : String)
  | inspect (endpoint : String)
  | pump
  | stick (stuck : Bool)

/-- Carries out an act. Inspecting a device is the only one that returns something. -/
def Bench.perform (act : DeviceAct) (b : Bench) : Reply × Bench :=
  match act with
  | .feed endpoint chunks => (.nothing, b.feed endpoint chunks)
  | .setFault endpoint stage fault =>
    (.nothing, b.onRack (·.alter endpoint (.setFault stage fault)))
  | .echo endpoint => (.nothing, b.onRack (·.alter endpoint fun d => { d with echo := true }))
  | .short endpoint count =>
    (.nothing, b.onRack (·.alter endpoint fun d => { d with short := count }))
  | .unplug endpoint =>
    (.nothing, b.onRack (·.alter endpoint fun d => { d with isOpen := false }))
  | .inspect endpoint => (.device (b.device endpoint), b.onRack (·.alter endpoint id))
  | .pump => (.nothing, b.settle)
  | .stick stuck => (.nothing, { b with stuck })

end AcceptanceBench
