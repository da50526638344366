import SocketGateway.Gateway.Step
import SocketGateway.Loopback.Link
import SocketGateway.Net.Machine

/-!
# A world in memory

A gateway, its clients' links and a clock in one value. Nothing happens by itself: a link is served
or the supervisor tended only when somebody says so. Whatever happens to the gateway is one of its
moves.
-/

namespace SocketGateway.Loopback

open SocketGateway.Config (Settings)
open SocketGateway.Net (Machine SocketAddress)

/-! ## The type -/

/-- A world: the gateway, whether its supervisor does its work, the host and the times that the
supervisor was told, the machine, the time, when the supervisor began what it does, whether it was
told to shut down, and the links in the order in which they were made. -/
structure World where
  gateway : Gateway
  supervised : Bool
  host : String
  restartDelay : Nat
  drainGrace : Nat
  machine : Machine
  now : Nat
  since : Nat
  shutdownAsked : Bool
  links : List Link

namespace World

def fresh (s : Settings) (handlers : HandlerSet) : World where
  gateway := .ofSettings s handlers
  supervised := true
  host := s.host
  restartDelay := s.restartDelay.toNat
  drainGrace := s.drainGrace.toNat
  machine := .fresh
  now := 0
  since := 0
  shutdownAsked := false
  links := []

/-- A world where streams are accepted and nobody supervises the gateway. -/
def unsupervised (s : Settings) (handlers : HandlerSet) : World :=
  let w := fresh s handlers
  let a : SocketAddress := ⟨.loopback, 0, w.machine.nextPort⟩
  { w with
    supervised := false
    machine := w.machine.usePort
    gateway := { w.gateway with control := .accepting, listener := some a, address := some a } }

/-! ## Moves -/

def move (w : World) (m : Move) : World :=
  match w.gateway.step m with
  | some g => { w with gateway := g }
  | none => w

/-- Makes a move of the supervisor, which begins something new by it. -/
def supervise (w : World) (m : Move) : World := { w.move m with since := w.now }

def cue (w : World) (i : Nat) (c : Cue) : World := w.move (.session w.now i c)

def setLink (w : World) (n : Nat) (l : Link) : World := { w with links := w.links.set n l }

/-! ## Clients -/

def connect (w : World) : Option (Nat × World) :=
  if w.gateway.listener.isSome then
    some (w.links.length, { w with links := w.links ++ [.fresh false] })
  else none

def reach (w : World) (name : String) (port : UInt16) : Except Http.IoFault (Nat × World) :=
  match Net.Host.resolve? name with
  | none => .error .refused
  | some host =>
    let wanted : SocketAddress := ⟨host, 0, port⟩
    if w.gateway.listener.any (·.excludes wanted) then
      .ok (w.links.length, { w with links := w.links ++ [.fresh false] })
    else if w.machine.isFree wanted then .error .refused
    else .ok (w.links.length, { w with links := w.links ++ [.fresh true] })

def onLink (w : World) (n : Nat) (f : Link → Link) : World := { w with links := w.links.modify n f }

/-! ## Sessions -/

def writeFor (w : World) (n i : Nat) (l : Link) (wr : Writing) : World :=
  let bytes := match wr with
    | .grant => l.grant
    | .refusal path => Text.Utf8.encode (Http.refusalText path)
    | .frame f => f.encode none
  (w.setLink n (l.reply bytes)).cue i .wrote

def readFor (w : World) (n i : Nat) (l : Link) : Option World :=
  match l.readRequest with
  | none => none
  | some (l, .verdict (.ok offer)) => some ((w.setLink n l).cue i (.requested offer.path))
  | some (l, .verdict (.error e)) => some ((w.setLink n l).cue i (.upgradeFailed e))
  | some (l, _) => some (w.setLink n l)

def wakeFor (w : World) (n i : Nat) (l : Link) (c : Connection) (d : Drive) : Option World :=
  match l.readMessage with
  | some (l, .message f) => some ((w.setLink n l).cue i (.inbound f))
  | some (l, _) => some ((w.setLink n l).cue i .readFailed)
  | none =>
    if (w.gateway.board.rooms.frames c.mailbox).isEmpty = false then some (w.cue i .outbound)
    else if d.nextTick ≤ w.now then some (w.cue i .tick)
    else none

/-- Accepts a link that waits for it; one that nobody will accept any more is given up. -/
def acceptFor (w : World) (n : Nat) (l : Link) : Option World :=
  let peer : SocketAddress := ⟨.loopback, 0, (50000 + n).toUInt16⟩
  match w.gateway.step (.accept peer) with
  | some g =>
    some ({ w with gateway := g }.setLink n
      { l with session := some w.gateway.board.sessions.length })
  | none =>
    if w.gateway.listener.isSome then none else some (w.setLink n { l with gatewayGone := true })

def serve (w : World) (n : Nat) : Option World := do
  let l ← w.links[n]?
  if l.elsewhere || l.gatewayGone then none
  else
    match l.session with
    | none => w.acceptFor n l
    | some i =>
      match w.gateway.board.pending? i, w.gateway.board.stage? i with
      | some wr, _ => some (w.writeFor n i l wr)
      | none, some .handshaking => w.readFor n i l
      | none, some (.open c _ d) => w.wakeFor n i l c d
      | none, some (.ended _) => some (w.setLink n { l with gatewayGone := true })
      | _, _ => none

/-! ## The supervisor -/

def supervisorTimer? (w : World) : Option Nat :=
  match w.gateway.control with
  | .stopping _ .grace => some (w.since + w.drainGrace)
  | .delaying _ _ => some (w.since + w.restartDelay)
  | _ => none

def isDue (w : World) (t : Option Nat) : Bool := t.any (· ≤ w.now)

def firstLive? (w : World) : Option Nat :=
  w.gateway.board.sessions.findIdx? fun s => s.stage.isLive

def tend (w : World) : Option World :=
  if !w.supervised then none
  else
    match w.gateway.control with
    | .ready | .finished _ => none
    | .stopping _ .grace =>
      if !w.gateway.board.hasLive || w.isDue w.supervisorTimer? then some (w.supervise .graceOver)
      else none
    | .stopping _ .aborting =>
      match w.firstLive? with
      | some i => some (w.move (.abort i))
      | none => some (w.supervise .proceed)
    | .stopping _ _ | .looping => some (w.supervise .proceed)
    | .delaying _ _ =>
      if w.isDue w.supervisorTimer? then some (w.supervise .delayOver) else none
    | .binding port _ =>
      let (r, machine) := w.machine.bind w.host port
      some ({ w with machine := machine }.supervise (.bound r))
    | .accepting =>
      if w.shutdownAsked then some (w.supervise .shutdown)
      else if w.gateway.board.coordinator.phase = .draining then some (w.supervise .noticeRestart)
      else none

end World

end SocketGateway.Loopback
