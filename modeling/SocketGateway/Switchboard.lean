import SocketGateway.Session.Identity
import SocketGateway.Session.Stage

/-!
# The switchboard

All sessions of a gateway work on one switchboard: the router, the registry, the mailboxes and the
restart coordinator. Each step of a session is one move of the switchboard; between two of them
any other session, or anyone else who holds a part of it, may move. A session that has a
connection leaves the registry however it ends.
-/

namespace SocketGateway

open SocketGateway.Config (Heartbeat)
open SocketGateway.Restart (Coordinator IllegalTransition Phase)
open SocketGateway.Wire (CloseCode Frame)

/-! ## The type -/

structure Call where
  session : Nat
  socket : Socket
  kind : CallKind

/-- What all sessions share, the sessions in the order in which their streams were accepted, and
two records, latest first: the calls of handlers, and whether each request for a restart started
one. -/
structure Switchboard where
  router : Router HandlerSet
  heartbeat : Heartbeat
  registry : Registry
  rooms : Mailroom
  coordinator : Coordinator
  sessions : List Session
  calls : List Call
  answers : List Bool

namespace Switchboard

def fresh (router : Router HandlerSet) (h : Heartbeat) (limit : Nat) : Switchboard where
  router := router
  heartbeat := h
  registry := .withLimit limit
  rooms := .empty
  coordinator := .initial
  sessions := []
  calls := []
  answers := []

/-! ## Looking -/

def stage? (b : Switchboard) (i : Nat) : Option Stage := (b.sessions[i]?).map (·.stage)

def hasLive (b : Switchboard) : Bool := b.sessions.any fun s => s.stage.isLive

def pending? (b : Switchboard) (i : Nat) : Option Writing :=
  (b.stage? i).bind (·.pending? b.heartbeat)

/-! ## Parts of a step -/

def enter (b : Switchboard) (i : Nat) (stage : Stage) : Switchboard :=
  { b with sessions := b.sessions.modify i fun s => { s with stage := stage } }

def note (b : Switchboard) (i : Nat) (c : Connection) (kind : CallKind) : Switchboard :=
  { b with calls := ⟨i, c.socket, kind⟩ :: b.calls }

/-- Takes a connection out of the registry and gives up its mailbox. -/
def leave (b : Switchboard) (c : Connection) : Switchboard :=
  { b with registry := (b.registry.remove c.id).2, rooms := b.rooms.hangUp c.mailbox }

def exit (b : Switchboard) (i : Nat) (c : Connection) (o : Outcome) : Switchboard :=
  (b.leave c).enter i (.ended o)

/-- Asks for a restart, and says whether that started one. -/
def request (b : Switchboard) : Bool × Switchboard :=
  let (started, c) := b.coordinator.request
  (started, { b with coordinator := c, answers := started :: b.answers })

/-- Does what a handler wants done, up to a breakdown, and says whether there was one. -/
def react (b : Switchboard) (socket : Socket) : List Reaction → Switchboard × Bool
  | [] => (b, false)
  | .emit name args :: rs => react { b with rooms := (socket.emit b.rooms name args).2 } socket rs
  | .close reason :: rs => react { b with rooms := (socket.close b.rooms reason).2 } socket rs
  | .restart :: rs => react b.request.2 socket rs
  | .panic :: _ => (b, true)

/-- Calls a handler of a session, and says whether it broke down. -/
def call (b : Switchboard) (i : Nat) (c : Connection) (handlers : HandlerSet) (kind : CallKind) :
    Switchboard × Bool :=
  (b.note i c kind).react c.socket (handlers.reactions kind)

def newConnection (b : Switchboard) (i : Nat) (ns : Namespace) : Connection where
  id := Identity.ofNumber b.rooms.next
  ns := ns
  peer := (b.sessions[i]?).map (·.peer)
  mailbox := b.rooms.next

def join (b : Switchboard) (i : Nat) (ns : Namespace) (handlers : HandlerSet) : Switchboard :=
  let c := b.newConnection i ns
  let b := { b with rooms := b.rooms.create }
  match b.registry.register c with
  | .ok registry => { b with registry := registry }.enter i (.greeting c handlers)
  | .error _ =>
    { b with rooms := b.rooms.hangUp c.mailbox }.enter i
      (.refusing b.registry.limit (Stage.refusalFrames b.registry.limit))

/-- Goes on with an open connection after its task has moved: at the end the handler is called for
the last time. -/
def settle (b : Switchboard) (i : Nat) (c : Connection) (handlers : HandlerSet) (d : Drive) :
    Switchboard :=
  match d.mode with
  | .over reason =>
    match b.call i c handlers (.disconnect reason) with
    | (b, false) => b.exit i c (.returned (.ok ()))
    | (b, true) => b.exit i c .panicked
  | _ => b.enter i (.open c handlers d)

def wake (b : Switchboard) (i : Nat) (now : Nat) (c : Connection) (handlers : HandlerSet)
    (d : Drive) (o : Occasion) : Switchboard :=
  match d.wake b.heartbeat now o with
  | (d, none) => b.settle i c handlers d
  | (d, some (name, args)) =>
    match b.call i c handlers (.event name args) with
    | (b, false) => b.settle i c handlers d
    | (b, true) => b.exit i c .panicked

/-- A connection opens: the handler is called for the first time. A clock without a period cannot
be set, so that the task breaks down if the heartbeat has no interval. -/
def begin (b : Switchboard) (i now : Nat) (c : Connection) (handlers : HandlerSet) : Switchboard :=
  match b.call i c handlers .connect with
  | (b, false) =>
    if b.heartbeat.interval = 0 then b.exit i c .panicked
    else b.enter i (.open c handlers (.start b.heartbeat now))
  | (b, true) => b.exit i c .panicked

/-! ## Steps of sessions -/

def accept (b : Switchboard) (peer : Net.SocketAddress) : Switchboard :=
  { b with sessions := b.sessions ++ [⟨peer, .handshaking⟩] }

/-- A session goes on by a cue, at a time; `none` if it does not wait for such a cue. -/
def advance (b : Switchboard) (now i : Nat) (cue : Cue) : Option Switchboard := do
  let stage ← b.stage? i
  match stage, cue with
  | .handshaking, .upgradeFailed e =>
    some (b.enter i (.ended (.returned (.error (.websocket e)))))
  | .handshaking, .requested path =>
    match b.router.resolve path with
    | none => some (b.enter i (.rejecting path))
    | some (ns, handlers) => some (b.enter i (.granting ns handlers))
  | .rejecting path, .wrote | .rejecting path, .writeFailed _ =>
    some (b.enter i (.ended (.returned (.error (.unknownNamespace path)))))
  | .granting ns handlers, .wrote => some (b.join i ns handlers)
  | .granting _ _, .writeFailed e => some (b.enter i (.ended (.returned (.error (.websocket e)))))
  | .refusing limit (_ :: f :: fs), .wrote => some (b.enter i (.refusing limit (f :: fs)))
  | .refusing limit _, .wrote =>
    some (b.enter i (.ended (.returned (.error (.capacityReached limit)))))
  | .refusing _ _, .writeFailed e =>
    some (b.enter i (.ended (.returned (.error (.websocket e)))))
  | .greeting c handlers, .wrote => some (b.begin i now c handlers)
  | .greeting c _, .writeFailed e => some (b.exit i c (.returned (.error (.websocket e))))
  | .open c handlers d, cue =>
    match d.mode, cue with
    | .writing _ _, .wrote => some (b.settle i c handlers (d.written true))
    | .writing _ _, .writeFailed _ => some (b.settle i c handlers (d.written false))
    | .waiting, .inbound f => some (b.wake i now c handlers d (.inbound f))
    | .waiting, .readFailed => some (b.wake i now c handlers d .readFailed)
    | .waiting, .streamEnded => some (b.wake i now c handlers d .streamEnded)
    | .waiting, .tick => some (b.wake i now c handlers d .tick)
    | .waiting, .outbound =>
      match b.rooms.take c.mailbox with
      | (some f, rooms) => some ({ b with rooms := rooms }.wake i now c handlers d (.outbound f))
      | (none, _) => none
    | _, _ => none
  | _, _ => none

/-- Cuts off a session that has not ended, wherever it is: it leaves the registry without a word. -/
def cutOff (b : Switchboard) (i : Nat) (o : Outcome) : Option Switchboard := do
  let stage ← b.stage? i
  if stage.isLive then
    match stage.connection? with
    | some c => some (b.exit i c o)
    | none => some (b.enter i (.ended o))
  else none

def abort (b : Switchboard) (i : Nat) : Option Switchboard := b.cutOff i .aborted

/-- The task of a session breaks down, whatever it was about to do. -/
def breakDown (b : Switchboard) (i : Nat) : Option Switchboard := b.cutOff i .panicked

def abortAll (b : Switchboard) : Switchboard :=
  (List.range b.sessions.length).foldl (fun b i => (b.abort i).getD b) b

/-! ## Steps of others -/

/-- Asks every connection to close and empties the registry; gives how many there were. -/
def drain (b : Switchboard) (code : CloseCode) (reason : String) : Nat × Switchboard :=
  let (n, registry, rooms) := b.registry.drain b.rooms code reason
  (n, { b with registry := registry, rooms := rooms })

def transition (b : Switchboard) (source target : Phase) :
    Except IllegalTransition Unit × Switchboard :=
  let (r, c) := b.coordinator.transition source target
  (r, { b with coordinator := c })

def emit (b : Switchboard) (s : Socket) (name : String) (args : List Json.Value) :
    Except GatewayError Unit × Switchboard :=
  let (r, rooms) := s.emit b.rooms name args
  (r, { b with rooms := rooms })

/-- Asks for the end of a connection through a socket that was kept. -/
def close (b : Switchboard) (s : Socket) (reason : String) :
    Except GatewayError Unit × Switchboard :=
  let (r, rooms) := s.close b.rooms reason
  (r, { b with rooms := rooms })

def registerLoose (b : Switchboard) (ns : Namespace) : Except GatewayError MailboxId × Switchboard :=
  let c : Connection := ⟨Identity.ofNumber b.rooms.next, ns, none, b.rooms.next⟩
  let b := { b with rooms := b.rooms.create }
  match b.registry.register c with
  | .ok registry => (.ok c.mailbox, { b with registry := registry })
  | .error e => (.error e, { b with rooms := b.rooms.hangUp c.mailbox })

end Switchboard

end SocketGateway
