import SocketGateway.Gateway.Control
import SocketGateway.Log.Record
import SocketGateway.Switchboard
import SocketGateway.Text.Quoted

/-!
# The gateway

A gateway is a switchboard and the supervisor of its listener. Everything that happens to it is a
move: of the supervisor, of a session, or of anyone else who has hold of the coordinator, the
registry or a socket. A run of a gateway is a list of moves, each of which is possible when it
comes. How long the supervisor waits is not said here: whoever lets the gateway run decides when
its time is up.
-/

namespace SocketGateway

open SocketGateway.Config (Heartbeat Settings)
open SocketGateway.Net (SocketAddress)
open SocketGateway.Restart (Phase)
open SocketGateway.Wire (CloseCode)

/-! ## The type -/

/-- A gateway: its switchboard, how often it tries to bind, the listener it holds, the address of
the last one, what the supervisor does and whether that is part of a run, what the last call gave
back, and what was logged, latest first. -/
structure Gateway where
  board : Switchboard
  attempts : Nat
  listener : Option SocketAddress
  address : Option SocketAddress
  control : Control
  running : Bool
  answer : Option Answer
  log : List Log.Record

/-- A move. -/
inductive Move where
  | start (port : UInt16)
  | stop
  | rebind (port : UInt16)
  | run
  | bound (r : Except GatewayError SocketAddress)
  | proceed
  | graceOver
  | delayOver
  | accept (peer : SocketAddress)
  | noticeRestart
  | shutdown
  | session (now i : Nat) (cue : Cue)
  | abort (i : Nat)
  | breakDown (i : Nat)
  | request
  | transition (source target : Phase)
  | drain (code : CloseCode) (reason : String)
  | emit (s : Socket) (name : String) (args : List Json.Value)
  | close (s : Socket) (reason : String)
  | register (ns : Namespace)

namespace Gateway

def fresh (board : Switchboard) (attempts : Nat) : Gateway :=
  ⟨board, attempts, none, none, .ready, false, none, []⟩

/-- The gateway of settings: all namespaces are served by one handler set. -/
def ofSettings (s : Settings) (handlers : HandlerSet) : Gateway :=
  fresh (.fresh (.shared s.namespaces handlers) s.heartbeat s.maxConnections.toNat)
    s.rebindAttempts.toNat

def drainReason : String := "server restarting"

def listeningRecord (g : Gateway) (a : SocketAddress) : Log.Record :=
  ⟨.info, "gateway listening on ws://" ++ a.text,
    [("addr", a.text),
      ("namespaces", Text.bracketed (g.board.router.namespaces.map fun n =>
        "Namespace(" ++ Text.quote n.text ++ ")"))]⟩

def shutdownRecord : Log.Record := ⟨.info, "shutting down gateway", []⟩

/-! ## Ends of calls -/

def giveBack (g : Gateway) (a : Answer) : Gateway := { g with control := .ready, answer := some a }

def finish (g : Gateway) (r : Except GatewayError Unit) : Gateway :=
  { g with board := g.board.abortAll, listener := none, control := .finished r }

/-- A call fails; within a run that ends the run. -/
def fail (g : Gateway) (e : GatewayError) : Gateway :=
  if g.running then g.finish (.error e) else g.giveBack (.error e)

/-! ## Binding -/

/-- Begins an attempt to bind, or says what is wrong with the heartbeat. The old listener is closed
before, unless the heartbeat is wrong. -/
def attempt (g : Gateway) (port : UInt16) (a : Attempt) : Except GatewayError Gateway :=
  match g.board.heartbeat.validate with
  | .error e => .error (.config e)
  | .ok _ => .ok { g with listener := none, control := .binding port a }

/-- An attempt of a rebind failed: it waits for another one, unless it was the last. -/
def attemptFailed (g : Gateway) (port : UInt16) (number : Nat) (e : GatewayError) : Gateway :=
  if number < max 1 g.attempts then { g with control := .delaying port (number + 1) }
  else g.fail e

def attemptAgain (g : Gateway) (port : UInt16) (number : Nat) : Gateway :=
  match g.attempt port (.rebind number) with
  | .ok g => g
  | .error e => g.attemptFailed port number e

def hold (g : Gateway) (a : SocketAddress) : Gateway :=
  { g with listener := some a, address := some a, log := g.listeningRecord a :: g.log }

def moveOn (g : Gateway) (source target : Phase) (next : Gateway → Gateway) : Gateway :=
  match g.board.transition source target with
  | (.ok _, b) => next { g with board := b }
  | (.error e, _) => g.fail (.invalidTransition e)

def bindingDone (g : Gateway) (port : UInt16) (a : Attempt)
    (r : Except GatewayError SocketAddress) : Gateway :=
  match a, r with
  | .start, .ok address => (g.hold address).giveBack (.ok (some address))
  | .start, .error e => g.giveBack (.error e)
  | .rebind _, .ok address =>
    (g.hold address).moveOn .rebinding .idle fun g =>
      if g.running then { g with control := .looping } else g.giveBack (.ok (some address))
  | .rebind number, .error e => g.attemptFailed port number e

/-! ## Stopping -/

def beginStop (g : Gateway) (p : StopPurpose) : Gateway := { g with control := .stopping p .closing }

/-- Begins a rebind: it starts a restart, or goes on with one that was asked for. -/
def beginRebind (g : Gateway) (port : UInt16) : Gateway :=
  let (started, b) := g.board.request
  let g := { g with board := b }
  if started then g.beginStop (.rebind port)
  else
    match g.board.coordinator.phase with
    | .draining => g.beginStop (.rebind port)
    | current => g.fail (.invalidTransition ⟨.idle, .draining, current⟩)

def afterStop (g : Gateway) : StopPurpose → Gateway
  | .stop => g.giveBack (.ok none)
  | .shutdown => { g with control := .finished (.ok ()) }
  | .rebind port =>
    g.moveOn .draining .waiting fun g => { g with control := .delaying port 1 }

def drainAll (g : Gateway) : Gateway :=
  { g with board := (g.board.drain CloseCode.away drainReason).2 }

/-- Another round of a run: it needs a listener. -/
def beginRound (g : Gateway) : Gateway :=
  match g.listener with
  | none => g.finish (.error .notStarted)
  | some _ => { g with control := .accepting }

/-- The next step of the supervisor that needs no time; `none` if it has to wait. -/
def proceed (g : Gateway) : Option Gateway :=
  match g.control with
  | .looping => some g.beginRound
  | .stopping p .closing => some { g with listener := none, control := .stopping p .draining }
  | .stopping p .draining => some { g.drainAll with control := .stopping p .grace }
  | .stopping p .aborting =>
    if g.board.hasLive then none else some { g.drainAll with control := .stopping p .swept }
  | .stopping p .swept => some (g.afterStop p)
  | _ => none

/-! ## Moves -/

def beginRun (g : Gateway) : Gateway := { g with running := true, control := .looping }

/-- Makes a move, if it is possible. -/
def step (g : Gateway) : Move → Option Gateway
  | .start port =>
    match g.control with
    | .ready =>
      match g.attempt port .start with
      | .ok g => some g
      | .error e => some (g.giveBack (.error e))
    | _ => none
  | .stop =>
    match g.control with
    | .ready => some (g.beginStop .stop)
    | _ => none
  | .rebind port =>
    match g.control with
    | .ready => some (g.beginRebind port)
    | _ => none
  | .run =>
    match g.control with
    | .ready => some g.beginRun
    | _ => none
  | .bound r =>
    match g.control with
    | .binding port a => some (g.bindingDone port a r)
    | _ => none
  | .proceed => g.proceed
  | .graceOver =>
    match g.control with
    | .stopping p .grace => some { g with control := .stopping p .aborting }
    | _ => none
  | .delayOver =>
    match g.control with
    | .delaying port 1 => some (g.moveOn .waiting .rebinding fun g => g.attemptAgain port 1)
    | .delaying port number => some (g.attemptAgain port number)
    | _ => none
  | .accept peer =>
    match g.control with
    | .accepting => some { g with board := g.board.accept peer }
    | _ => none
  | .noticeRestart =>
    match g.control, g.board.coordinator.phase, g.address with
    | .accepting, .draining, some a => some (g.beginRebind a.port)
    | .accepting, .draining, none => some (g.fail .notStarted)
    | _, _, _ => none
  | .shutdown =>
    match g.control with
    | .accepting => some ({ g with log := shutdownRecord :: g.log }.beginStop .shutdown)
    | _ => none
  | .session now i cue => (g.board.advance now i cue).map fun b => { g with board := b }
  | .abort i =>
    match g.control with
    | .stopping _ .aborting => (g.board.abort i).map fun b => { g with board := b }
    | _ => none
  | .breakDown i => (g.board.breakDown i).map fun b => { g with board := b }
  | .request => some { g with board := g.board.request.2 }
  | .transition source target => some { g with board := (g.board.transition source target).2 }
  | .drain code reason => some { g with board := (g.board.drain code reason).2 }
  | .emit s name args => some { g with board := (g.board.emit s name args).2 }
  | .close s reason => some { g with board := (g.board.close s reason).2 }
  | .register ns => some { g with board := (g.board.registerLoose ns).2 }

/-- Makes moves one after the other, if each of them is possible when it comes. -/
def steps (g : Gateway) (ms : List Move) : Option Gateway := ms.foldlM step g

end Gateway

end SocketGateway
