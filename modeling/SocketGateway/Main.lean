import SocketGateway.Cli.Run

/-!
# The program

The outer layer: it reads the configuration file, the file with further variables and the
environment, and writes what the run gives. The gateway serves in memory until standard input ends.
-/

namespace SocketGateway.Cli

def variableNames : List String :=
  [filterVariable, "NSGATE_SERVER__HOST", "NSGATE_SERVER__PORT", "NSGATE_GATEWAY__NAMESPACES",
    "NSGATE_GATEWAY__RESTART_EVENT", "NSGATE_GATEWAY__RESTART_DELAY_MS",
    "NSGATE_GATEWAY__REBIND_ATTEMPTS", "NSGATE_GATEWAY__DRAIN_GRACE_MS",
    "NSGATE_GATEWAY__MAX_CONNECTIONS", "NSGATE_HEARTBEAT__PING_INTERVAL_MS",
    "NSGATE_HEARTBEAT__PING_TIMEOUT_MS", "NSGATE_LOGGING__LEVEL"]

def readBytes? (path : String) : IO (Option (List UInt8)) :=
  try
    let bytes ← IO.FS.readBinFile path
    return some bytes.toList
  catch _ => return none

def lookAround : IO Surroundings := do
  let file ← readBytes? Config.fileName
  let dotEnv ← readBytes? ".env"
  let env ← variableNames.filterMapM fun name => do
    return (← IO.getEnv name).map fun value => (name, value)
  return ⟨file, dotEnv.map Text.Utf8.decodeLossy, env⟩

/-- Writes how a run ended; one that does not end by itself counts as stopped. -/
def report (e : Ending) : IO UInt32 := do
  e.lines.forM fun line => IO.println line
  e.complaint.forM fun line => IO.eprintln line
  return (e.code.getD 0).toUInt32

def serveUntilEnd (s : Service) : IO UInt32 := do
  s.lines.forM fun line => IO.println line
  (← IO.getStdout).flush
  let _ ← (← IO.getStdin).readToEnd
  let e := s.stop
  report { e with lines := e.lines.drop s.lines.length }

end SocketGateway.Cli

open SocketGateway in
def main (args : List String) : IO UInt32 := do
  let around ← Cli.lookAround
  match Cli.Request.read args with
  | .run .server =>
    match Cli.serve .fresh around with
    | .ok service => Cli.serveUntilEnd service
    | .error e => Cli.report e
  | _ => Cli.report (Cli.run .fresh around args)
