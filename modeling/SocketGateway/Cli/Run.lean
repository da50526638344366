import SocketGateway.Cli.Arguments
import SocketGateway.Cli.Help
import SocketGateway.Config.Load
import SocketGateway.Log.Filter
import SocketGateway.Loopback.Probing

/-!
# Running the program

A run of the program in a world: what it writes and the code it ends with. A server ends only when
it is told to or when it cannot go on, so it is started and stopped in two steps; between them
others may do in its world what they like.
-/

namespace SocketGateway.Cli

open SocketGateway.Config (Environment)
open SocketGateway.Log (Filter Record)
open SocketGateway.Loopback (World)
open SocketGateway.Net (Machine)

/-! ## Types -/

/-- What the program finds where it is started: the configuration file, the file with further
variables, and the environment. -/
structure Surroundings where
  file : Option (List UInt8)
  dotEnv : Option String
  env : Environment

/-- All variables: those of the environment, and those that only the file has. -/
def Surroundings.allVariables (s : Surroundings) : Environment :=
  match s.dotEnv with
  | some text => Config.DotEnv.extend s.env text
  | none => s.env

/-- How a run ends: its code, unless it does not end by itself, the lines it wrote, and what it
wrote about its arguments. -/
structure Ending where
  code : Option Nat
  lines : List String
  complaint : List String
deriving DecidableEq, Repr

/-- A server that serves: what it shows of its log, and the world in which it does. -/
structure Service where
  filter : Filter
  world : World

/-! ## What is logged -/

/-- The targets of records: of the program itself, of the probe, of the supervisor. -/
def programTarget : String := programName

def probeTarget : String := programName ++ "::harness"

def supervisorTarget : String := programName ++ "::server::supervisor"

def filterVariable : String := "RUST_LOG"

def filterOf (env : Environment) (setting : String) : Filter :=
  Filter.choose (env.lookup? filterVariable) setting

def shown (f : Filter) (target : String) (rs : List Record) : List String :=
  (rs.filter fun r => f.enables target r.level).map (·.line)

def failureRecord (e : GatewayError) : Record :=
  ⟨.error, programName ++ " failed: " ++ e.message, []⟩

def signalRecord : Record := ⟨.info, "Shutdown signal received. Exiting gracefully.", []⟩

def failed (f : Filter) (before : List String) (e : GatewayError) : Ending :=
  ⟨some 1, before ++ shown f programTarget [failureRecord e], []⟩

/-! ## Visiting -/

def visit (w : World) (env : Environment) (o : Probe.Options) : Ending × World :=
  let f := filterOf env "info"
  match w.probe o with
  | (log, none, w) => (⟨none, shown f probeTarget log, []⟩, w)
  | (log, some (.error e), w) => (failed f (shown f probeTarget log) e, w)
  | (log, some (.ok r), w) =>
    (⟨some 0, shown f probeTarget log ++
      shown f programTarget [Probe.Visit.finishedRecord r], []⟩, w)

/-! ## Serving -/

/-- The lines of what a server has logged. The signal to stop is logged before the stop. -/
def Service.lines (s : Service) : List String :=
  s.world.gateway.log.reverse.flatMap fun r =>
    if r = Gateway.shutdownRecord then
      shown s.filter programTarget [signalRecord] ++ shown s.filter supervisorTarget [r]
    else shown s.filter supervisorTarget [r]

def serve (m : Machine) (s : Surroundings) : Except Ending Service :=
  let env := s.allVariables
  match Config.load s.file env with
  | .error e => .error (failed (filterOf env "info") [] (.config e))
  | .ok settings =>
    let f := filterOf env settings.logLevel
    let w := World.fresh settings (.standard settings.restartEvent)
    let w := { w with machine := m }.call (.start settings.port)
    match w.gateway.answer with
    | some (.error e) => .error (failed f [] e)
    | _ => .ok ⟨f, w.supervise .run⟩

def Service.unended (s : Service) : Ending := ⟨none, s.lines, []⟩

def Service.stop (s : Service) : Ending :=
  let w := { s.world.settle with shutdownAsked := true }
  let s := { s with world := World.finishCall (w.gateway.attempts + 8) w }
  match s.world.gateway.control with
  | .finished (.ok _) => ⟨some 0, s.lines, []⟩
  | .finished (.error e) => failed s.filter s.lines e
  | _ => s.unended

/-! ## Everything together -/

def complaintOf (m : Misuse) : List String :=
  ["error: " ++ m.message, "", "For more information, try '--help'."]

/-- Runs the program on a machine where no gateway listens; a server is never stopped. -/
def run (m : Machine) (s : Surroundings) (args : List String) : Ending :=
  match Request.read args with
  | .help p => ⟨some 0, p.lines, []⟩
  | .nothing => ⟨some 2, [], Page.lines .program⟩
  | .misuse fault => ⟨some 2, [], complaintOf fault⟩
  | .run .server =>
    match serve m s with
    | .error e => e
    | .ok service => service.unended
  | .run (.client o) =>
    let w := World.fresh .default (.standard Config.Settings.default.restartEvent)
    (visit { w with machine := m } s.env o).1

end SocketGateway.Cli
