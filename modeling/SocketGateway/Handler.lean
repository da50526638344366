import SocketGateway.DisconnectReason
import SocketGateway.Log.Record
import SocketGateway.Message.Server
import SocketGateway.Registry

/-!
# Handlers

A handler set says how a namespace answers its clients: when one connects, when it sends an event,
when its connection has ended. It gets a `Socket`, by which it can send an event to the client or
ask for its connection to be closed. The standard set knows one event, which asks for a restart;
the recording set echoes, closes, or breaks down on demand.
-/

namespace SocketGateway

open SocketGateway.Json (Value)
open SocketGateway.Restart (Coordinator)
open SocketGateway.Wire (CloseCode Frame)

/-! ## Sockets -/

/-- What a handler holds of a connection: its id, its namespace, and the way to its mailbox. -/
structure Socket where
  id : String
  ns : Namespace
  mailbox : MailboxId
deriving DecidableEq, Repr

def Connection.socket (c : Connection) : Socket := ⟨c.id, c.ns, c.mailbox⟩

namespace Socket

/-- Puts a frame into the mailbox of the connection; an error once its task has gone. -/
def send (s : Socket) (m : Mailroom) (f : Frame) : Except GatewayError Unit × Mailroom :=
  match m.post s.mailbox f with
  | (true, m) => (.ok (), m)
  | (false, m) => (.error (.connectionClosed s.id), m)

def eventFrame (event : String) (args : List Value) : Frame :=
  .text (ServerMessage.event event args).encode

def emit (s : Socket) (m : Mailroom) (event : String) (args : List Value) :
    Except GatewayError Unit × Mailroom :=
  s.send m (eventFrame event args)

def close (s : Socket) (m : Mailroom) (reason : String) : Except GatewayError Unit × Mailroom :=
  s.send m (.closing CloseCode.normal reason)

end Socket

/-! ## Handler sets -/

inductive CallKind where
  | connect
  | event (name : String) (args : List Value)
  | disconnect (reason : DisconnectReason)

inductive Reaction where
  | emit (event : String) (args : List Value)
  | close (reason : String)
  | restart
  | panic

/-- A handler set: what it does about a new client, about the events of a client, and about a
client that has gone. A set that says nothing about the first and the last does nothing then. -/
structure HandlerSet where
  onConnect : List Reaction := []
  onEvent : String → List Value → List Reaction
  onDisconnect : DisconnectReason → List Reaction := fun _ => []

namespace HandlerSet

def reactions (h : HandlerSet) : CallKind → List Reaction
  | .connect => h.onConnect
  | .event name args => h.onEvent name args
  | .disconnect reason => h.onDisconnect reason

/-- The standard set: one event asks for a restart, all others are ignored. -/
def standard (restartEvent : String) : HandlerSet where
  onEvent event _ := if event = restartEvent then [.restart] else []

/-- The recording set: `echo` is sent back with its arguments, `close` closes with its first
argument as the reason if that is a text, and `panic` ends the task. -/
def recording : HandlerSet where
  onEvent event args :=
    if event = "echo" then [.emit "echo" args]
    else if event = "close" then
      match args with
      | .string reason :: _ => [.close reason]
      | _ => [.close ""]
    else if event = "panic" then [.panic]
    else []

end HandlerSet

/-! ## What the standard set logs -/

namespace Standard

open SocketGateway.Log (Record)

def socketFields (s : Socket) : List (String × String) :=
  [("sid", s.id), ("namespace", s.ns.text)]

def connectRecord (s : Socket) : Record := ⟨.info, "client connected", socketFields s⟩

/-- The record of an event, given the coordinator before it. -/
def eventRecord (restartEvent : String) (c : Coordinator) (s : Socket) (event : String)
    (args : List Value) : Record :=
  if event ≠ restartEvent then
    ⟨.info, "ignoring unhandled event",
      socketFields s ++ [("event", event), ("args", toString args.length)]⟩
  else if c.request.1 then ⟨.info, "restart requested", socketFields s⟩
  else
    ⟨.warn, "restart already in progress; request ignored",
      socketFields s ++ [("phase", c.phase.name)]⟩

def disconnectRecord (s : Socket) (reason : DisconnectReason) : Record :=
  ⟨.info, "client disconnected", socketFields s ++ [("reason", reason.text)]⟩

end Standard

end SocketGateway
