import AcceptanceBench.CommandLine.Run

/-!
The program. What the device under test sends is read from standard input; commands that need an
external tool report that it cannot be started.
-/

namespace AcceptanceBench.Program

/-- The bytes of a stream up to its end. -/
partial def readAll (stream : IO.FS.Stream) : IO Bytes := do
  let chunk ← stream.read 4096
  if chunk.isEmpty then return []
  return chunk.toList ++ (← readAll stream)

/-- The environment variables that hold device paths. -/
def environment : IO (Table String) := do
  let entries ← (usualVariables.map (·.2)).filterMapM fun name => do
    return (← IO.getEnv name).map fun value => (name, value)
  return .ofList entries

/-- A bench on which the device of the requested channel sends what standard input holds. -/
def benchFor (request : CommandLine.Request) (environ : Table String) : IO Bench := do
  let bench : Bench := .make [] .usual
  match request with
  | .expect channel _ _ _ _ _ =>
    match devicePath usualChannels environ channel with
    | .ok endpoint => return bench.feed endpoint [← readAll (← IO.getStdin)]
    | .error _ => return bench
  | _ => return bench

/-- Carries out a request and prints its report. An error that no report covers is printed by name.
-/
def carryOut (request : CommandLine.Request) : IO UInt32 := do
  let environ ← environment
  let bench ← benchFor request environ
  let report := @CommandLine.Request.run .threads
    { environ, process := .refused "tools are not available", bench, events := [] } request
  IO.print report.printed.out
  IO.eprint report.printed.err
  match report.exit with
  | .ok code => return code.toUInt32
  | .error e =>
    IO.eprintln (e.name ++ ": " ++ e.message)
    return 1

end AcceptanceBench.Program

/-- Reads the command line and carries it out. -/
def main (words : List String) : IO UInt32 := do
  match AcceptanceBench.CommandLine.readRequest false words with
  | .ok request => AcceptanceBench.Program.carryOut request
  | .error stop =>
    IO.eprintln "commands: build, usb-request, serial-list, serial-expect"
    return stop.code.toUInt32
