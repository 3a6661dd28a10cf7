import AcceptanceBench.Error

/-!
What the bench logs: the warnings and errors that a report of a run shows, each from one part of the
bench.
-/

namespace AcceptanceBench

/-- How serious an entry of the log is. -/
inductive Severity where
  | warning
  | error
  deriving Repr, DecidableEq

/-- An entry of the log, by its cause. -/
inductive Notice where
  /-- A wait ended without a match. -/
  | waitFailed (e : Error)
  | undefinedVariable (e : Error)
  | commandNotStarted (e : Error)
  | commandFailed (e : Error)
  | badReply (e : Error)
  | portNotOpened (e : Error)
  | portReadFailed (port : String) (reason : Fault)
  | portWriteFailed (context port : String) (reason : Fault)
  /-- The scheduler stopped with subscriptions that nobody had ended. -/
  | subscriptionsDropped (names : List String) (thread : String)
  /-- Stopping failed while another error was under way. -/
  | stopFailed (e : Error) (during : String)
  /-- A transport reported that reading failed. -/
  | pollFailed (subscription : String) (e : Error)
  /-- Reading failed in an unexpected way. -/
  | pollCrashed (subscription : String) (f : Fault)
  | callbackFailed (subscription : String) (f : Fault)
  | channelNotClosed (channel : String) (f : Fault)
  | teardownFailed (e : Error)
  deriving Repr, DecidableEq

namespace Notice

/-- How serious the entry is. -/
def severity : Notice → Severity
  | .waitFailed _ | .commandFailed _ | .subscriptionsDropped _ _ | .callbackFailed _ _ => .warning
  | _ => .error

/-- The part of the bench that logs the entry. -/
def source : Notice → String
  | .waitFailed _ => "buffer"
  | .undefinedVariable _ => "config"
  | .commandNotStarted _ | .commandFailed _ => "external"
  | .badReply _ => "usb"
  | .portNotOpened _ | .portReadFailed _ _ | .portWriteFailed _ _ _ => "transport"
  | .subscriptionsDropped _ _ | .stopFailed _ _ | .pollFailed _ _ | .pollCrashed _ _
  | .callbackFailed _ _ => "scheduler"
  | .channelNotClosed _ _ => "channels"
  | .teardownFailed _ => "scenario"

/-- What the entry says. -/
def text : Notice → String
  | .waitFailed e =>
    let tag := match e with
      | .lastMismatch _ _ _ => "MISMATCH"
      | _ => "TIMEOUT"
    "[WAIT] " ++ tag ++ " — " ++ e.message
  | .undefinedVariable e => "[CONFIG] " ++ e.message
  | .commandNotStarted e => "[EXEC] START FAILED — " ++ e.message
  | .commandFailed e => "[EXEC] " ++ e.message
  | .badReply e => "[USB-REQ] DECODE ERROR — " ++ e.message
  | .portNotOpened e => "[SERIAL-OPEN] " ++ e.message
  | .portReadFailed port reason => "[SERIAL-READ] " ++ port ++ ": " ++ reason.text
  | .portWriteFailed context port reason =>
    "[SERIAL-WRITE] [" ++ context ++ "] " ++ port ++ ": " ++ reason.text
  | .subscriptionsDropped names thread =>
    "[SCHED-STOP] Dropping " ++ toString names.length ++ " live subscription(s) on " ++ thread
      ++ ": " ++ Error.listed names
  | .stopFailed e during =>
    "[SCHED-STOP] " ++ e.message ++ " (while handling " ++ during ++ ")"
  | .pollFailed subscription e =>
    "[SCHED-POLL] Read from " ++ subscription ++ " failed, dropping subscription: " ++ e.message
  | .pollCrashed subscription f =>
    "[SCHED-POLL] Unexpected " ++ f.kind.name ++ " reading " ++ subscription
      ++ ", dropping subscription: " ++ f.text
  | .callbackFailed subscription f =>
    "[SCHED-POLL] on_data callback for " ++ subscription ++ " raised " ++ f.kind.name ++ ": "
      ++ f.text ++ " (callback errors are swallowed to protect the poll loop)"
  | .channelNotClosed channel f =>
    "[CHANNEL-CLOSE] Error closing " ++ channel ++ ": " ++ f.text
  | .teardownFailed e => "[SCENARIO] Teardown: " ++ e.message

/-- The entry as one line: how serious it is, where it comes from, and what it says. -/
def line (n : Notice) : String :=
  let level := match n.severity with
    | .warning => "WARNING"
    | .error => "ERROR"
  level ++ " " ++ n.source ++ " " ++ n.text

end Notice

end AcceptanceBench
