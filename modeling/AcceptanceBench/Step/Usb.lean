import AcceptanceBench.Step.Answer
import AcceptanceBench.Usb

/-!
Scripts on a channel for USB requests.
-/

namespace AcceptanceBench

/-- A step on a USB channel. A refused step has an argument of a wrong type. -/
inductive UsbStep where
  | send (request : UsbRequest) (tool : ToolOutcome)
  | take
  | hasReply
  | reset
  | refused

/-- A USB channel with the log and the history of what was run. -/
structure UsbBench where
  usb : UsbChannel
  log : List Notice
  ran : List (List String)

namespace UsbBench

/-- Takes a step. -/
def perform (step : UsbStep) (s : UsbBench) : Except Error Reply × UsbBench :=
  match step with
  | .send request tool =>
    let (result, usb) := s.usb.send request tool
    (replyWith (fun bytes => .data (.bytes bytes)) result,
      ⟨usb, s.log ++ s.usb.notices result, s.ran ++ [s.usb.call request]⟩)
  | .take => (replyWith (fun bytes => .data (.bytes bytes)) s.usb.take, s)
  | .hasReply => (.ok (.flag s.usb.hasReply), s)
  | .reset => (.ok .nothing, { s with usb := s.usb.reset })
  | .refused => (.error .wrongType, s)

/-- The answers to a script on a new USB channel. -/
def run (command : String) (runner : Runner) (steps : List UsbStep) : List (StepAnswer UsbBench) :=
  runSteps (fun step s => (Answer.ofAct perform step s).asStep) steps
    ⟨.make command runner, [], []⟩

end UsbBench

end AcceptanceBench
