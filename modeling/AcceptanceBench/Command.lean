import AcceptanceBench.Notice
import AcceptanceBench.Text.Shell

/-!
External commands. What becomes of the process is given; running a command reads its output as text
and turns a failure into an error that shows the command line.
-/

namespace AcceptanceBench

/-- What becomes of a process: it exits with a code and output, or the system cannot start it, or
starting it raises a fault. -/
inductive Execution where
  | exits (code : Int) (stdout stderr : Bytes)
  | refused (reason : String)
  | faults (f : Fault)
  deriving Repr, DecidableEq

/-- A process that succeeds and prints nothing. -/
def Execution.quiet : Execution := .exits 0 [] []

/-- The text that a process printed, with every line end as a line feed. -/
def printedText (output : Bytes) : String :=
  String.ofList (Text.unifyLines (Text.Utf8.lossy output))

/-- The error of a command that could not be started. -/
def startError (context command reason : String) : Error :=
  .cannotStart context ⟨command, none, "", reason⟩

/-- Runs a command for the purpose that `context` tells. The answer is what it printed, without
blanks at the end. A command line without a program is found out once the process has ended. -/
def runCommand (args : List String) (context : String) (process : Execution) :
    Except Error String :=
  let command := Text.Shell.join args
  match process with
  | .refused reason => .error (startError context command reason)
  | .faults f =>
    .error (if f.kind.isSystem then startError context command f.text else .fault f)
  | .exits code stdout stderr =>
    if args.isEmpty then .error .emptyList
    else if code = 0 then .ok (Text.trimEnd (printedText stdout))
    else .error (.commandFailed context code
      ⟨command, some code, printedText stdout, printedText stderr⟩)

/-- What running a command leaves in the log: a failure to start is an error, and a failed command a
warning. -/
def commandNotices : Except Error String → List Notice
  | .error e@(.cannotStart _ _) => [.commandNotStarted e]
  | .error e@(.commandFailed _ _ _) => [.commandFailed e]
  | _ => []

/-- The tool that builds and flashes an application, where no other is given. -/
def usualBuildCommand : String := "make_app"

/-- The command that builds the application at a path. -/
def buildArguments (command path : String) : List String :=
  [command, Text.Shell.normal path]

end AcceptanceBench
