import SocketGateway.Loopback.Step

/-!
# Scripts

A script goes through a world step by step. Clients go by labels; a connection goes by the label of
the client that was greeted under its id, or by a number of its own if no client of the script was.
What handlers were called for is told once, by the next look at the state.
-/

namespace SocketGateway.Loopback

open SocketGateway.Probe (Options Report)
open SocketGateway.Restart (Phase)
open SocketGateway.Wire (CloseCode Frame)

/-! ## Scripts -/

/-- A client of a script: its link, and the id that it was greeted with. -/
structure Visitor where
  link : Nat
  id : Option String

/-- A script under way: the world, whether handlers take notes, the clients by label, the names of
ids, how many ids got numbers, and how many calls were told. -/
structure Script where
  world : World
  noting : Bool
  visitors : Table String Visitor
  names : Table String String
  numbered : Nat
  told : Nat

namespace Script

def start (w : World) (noting : Bool) : Script := ⟨w, noting, .empty, .empty, 0, 0⟩

/-! ## Names -/

def link? (s : Script) (label : String) : Option Nat := (s.visitors.find? label).map (·.link)

def greet (s : Script) (label : String) (r : Option Response) : Script :=
  match r with
  | some ⟨_, _, .first (.frame (.text text))⟩ =>
    match ServerMessage.decode text with
    | .ok (.connected id _ _ _) =>
      match s.visitors.find? label with
      | some v =>
        { s with
          visitors := s.visitors.insert label { v with id := some id }
          names := s.names.insert id label }
      | none => s
    | _ => s
  | _ => s

def name (s : Script) (id : String) : Script :=
  if s.names.contains id then s
  else
    { s with
      names := s.names.insert id ("?" ++ toString (s.numbered + 1))
      numbered := s.numbered + 1 }

def nameOf (s : Script) (id : String) : String := (s.names.find? id).getD id

def socket? (s : Script) (label : String) : Option Socket := do
  let v ← s.visitors.find? label
  let id ← v.id
  let call ← s.world.gateway.board.calls.find? fun c => c.socket.id == id
  some call.socket

/-! ## Looking -/

def noteOf (c : Call) : String :=
  let ns := c.socket.ns.text
  match c.kind with
  | .connect => "connect " ++ ns
  | .event name args => "event " ++ ns ++ " " ++ name ++ " " ++ (Json.Value.array args).render
  | .disconnect reason => "disconnect " ++ ns ++ " " ++ reason.text

def isDisconnect (c : Call) : Bool :=
  match c.kind with
  | .disconnect _ => true
  | _ => false

def reached (noting : Bool) (g : Goal) (w : World) : Bool :=
  let b := w.gateway.board
  match g with
  | .connections n => b.registry.size == n
  | .disconnects n => (if noting then (b.calls.filter isDisconnect).length else 0) == n
  | .restarts n => b.coordinator.completed.toNat == n
  | .phase p => b.coordinator.phase == p

def untold (s : Script) : List Call :=
  if s.noting then (s.world.gateway.board.calls.reverse).drop s.told else []

/-- Looks at the state, in which nothing more can happen at the present time. -/
def look (s : Script) : Snapshot × Script :=
  let s := { s with world := s.world.settle }
  let b := s.world.gateway.board
  let calls := s.untold
  let s := (calls.map (·.socket.id) ++ b.registry.ids).foldl name s
  let told := calls.foldl (fun (t : Table String (List String)) c =>
    let label := s.nameOf c.socket.id
    t.insert label ((t.find? label).getD [] ++ [noteOf c])) .empty
  (⟨b.registry.ids.map s.nameOf, b.registry.countByNamespace.entries.map fun e => (e.1.text, e.2),
    told.entries, b.coordinator.phase, b.coordinator.completed⟩,
    { s with told := b.calls.length })

/-! ## Steps of clients -/

def readResponse (s : Script) (label : String) : Reply × Script :=
  match s.link? label with
  | none => (.nothing, s)
  | some n =>
    match s.world.awaitOn n (·.response?) with
    | (some r, w) => (.response r, { s with world := w }.greet label r)
    | (none, w) => (.timeout, { s with world := w })

def openLink (s : Script) (label : String) (request : List UInt8) (wait : Bool) :
    Reply × Script :=
  match s.world.connect with
  | none => (.refused, s)
  | some (n, w) =>
    let s := { s with
      world := w.onLink n (·.send request)
      visitors := s.visitors.insert label ⟨n, none⟩ }
    if wait then s.readResponse label else (.nothing, s)

def onLink (s : Script) (label : String) (f : Link → Link) : Reply × Script :=
  match s.link? label with
  | none => (.nothing, s)
  | some n => (.nothing, { s with world := s.world.onLink n f })

def readFrame (s : Script) (label : String) (pings : Bool) : Reply × Script :=
  match s.link? label with
  | none => (.nothing, s)
  | some n =>
    match s.world.awaitOn n (·.reading? pings) with
    | (some r, w) => (.reading r, { s with world := w })
    | (none, w) => (.reading .timeout, { s with world := w })

/-! ## Steps of others -/

def setBoard (s : Script) (b : Switchboard) : Script :=
  { s with world := { s.world with gateway := { s.world.gateway with board := b } } }

def session? (s : Script) (label : String) : Option Nat := do
  let n ← s.link? label
  let l ← s.world.links[n]?
  l.session

def outcome? (s : Script) (label : String) : Option Outcome := do
  let i ← s.session? label
  match ← s.world.gateway.board.stage? i with
  | .ended o => some o
  | _ => none

def awaitOutcome (s : Script) (label : String) : Reply × Script :=
  let s := { s with
    world := (s.world.await fun w => ({ s with world := w }.outcome? label).isSome).2 }
  match s.outcome? label with
  | some o => (.ended o, s)
  | none => (.timeout, s)

def runResult? (w : World) : Option (Except GatewayError Unit) :=
  match w.gateway.control with
  | .finished r => some r
  | _ => none

def awaitRun (s : Script) : Reply × Script :=
  let s := { s with world := (s.world.await fun w => (runResult? w).isSome).2 }
  match runResult? s.world with
  | some r => (.done r, s)
  | none => (.timeout, s)

def viaSocket (s : Script) (label : String)
    (send : Switchboard → Socket → Except GatewayError Unit × Switchboard) : Reply × Script :=
  match s.socket? label with
  | none => (.nothing, s)
  | some socket =>
    let (r, b) := send s.world.gateway.board socket
    (.done r, s.setBoard b)

/-- Somebody else listens where the gateway did, unless it still does. -/
def squat (s : Script) : Reply × Script :=
  match s.world.gateway.address with
  | none => (.flag false, s)
  | some a =>
    let w := s.world
    let free := w.machine.isFree a && !w.gateway.listener.any (·.excludes a)
    (.flag free, if free then { s with world := { w with machine := w.machine.occupy a } } else s)

/-! ## Running -/

def step (s : Script) : Step → Reply × Script
  | .open label request wait => s.openLink label request wait
  | .response label => s.readResponse label
  | .send label bytes => s.onLink label (·.send bytes)
  | .recv label pings => s.readFrame label pings
  | .finish label => s.onLink label (·.finish)
  | .drop label => s.onLink label (·.drop)
  | .emit label event args => s.viaSocket label fun b k => b.emit k event args
  | .close label reason => s.viaSocket label fun b k => b.close k reason
  | .result label => s.awaitOutcome label
  | .abort label =>
    let b := s.world.gateway.board
    (.nothing, s.setBoard (((s.session? label).bind b.abort).getD b))
  | .drain code reason =>
    let (n, b) := s.world.gateway.board.drain code reason
    (.count n, s.setBoard b)
  | .request =>
    let (started, b) := s.world.gateway.board.request
    (.flag started, s.setBoard b)
  | .transition source target =>
    let (r, b) := s.world.gateway.board.transition source target
    (.done (r.mapError .invalidTransition), s.setBoard b)
  | .await g =>
    let (b, w) := s.world.await (reached s.noting g)
    (.flag b, { s with world := w })
  | .state => let (v, s) := s.look; (.state v, s)
  | .probe o =>
    match s.world.probe o with
    | (_, some r, w) => (.report r, { s with world := w })
    | (_, none, w) => (.timeout, { s with world := w })
  | .shutdown => { s with world := { s.world with shutdownAsked := true } }.awaitRun
  | .finished => s.awaitRun
  | .squat => s.squat
  | .unsquat =>
    (.nothing, { s with world := { s.world with machine := s.world.machine.release } })

end Script

end SocketGateway.Loopback
