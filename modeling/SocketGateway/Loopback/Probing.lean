import SocketGateway.Loopback.Clock
import SocketGateway.Probe.Client

/-!
# Probes in a world

A probe is let loose on the gateway of a world. It reads what arrives as soon as it arrives; when
nothing can happen at the present time the clock goes on, at the latest to the end of its stay.
-/

namespace SocketGateway.Loopback

open SocketGateway.Probe (Client Options Plan Report)

def earlier : Option Nat → Option Nat → Option Nat
  | some a, some b => some (min a b)
  | some a, none => some a
  | none, b => b

namespace World

def carry (w : World) (n : Nat) (c : Client) : Client × World :=
  ({ c with output := [] }, w.onLink n (·.send c.output))

/-- Lets a probe go on on a link until it is done; `deadline` is the end of its stay, once that has
begun. -/
def probeWith (n : Nat) : Nat → Option Nat → Client → World → Client × World
  | 0, _, c, w => (c, w)
  | fuel + 1, deadline, c, w =>
    let (c, w) := w.carry n c
    let w := w.settle
    match w.links[n]? with
    | none => (c, w)
    | some l =>
      let (c, w) := (w.setLink n { l with toClient := [] }).carry n
        (c.receive l.toClient l.gatewayGone)
      let deadline :=
        if c.isVisiting then some (deadline.getD (w.now + c.options.linger)) else deadline
      if c.result?.isSome then (c, w.onLink n (·.drop))
      else if !l.toClient.isEmpty then probeWith n fuel deadline c w
      else
        match earlier deadline w.nextTimer? with
        | none => (c, w)
        | some t =>
          let w := { w with now := max t w.now }
          if deadline == some t then probeWith n fuel deadline c.lingerOver w
          else probeWith n fuel deadline c w

def approach (w : World) (p : Plan) : Except GatewayError (Nat × World) :=
  match w.reach p.host p.port with
  | .error fault => .error (.websocket (.io fault))
  | .ok (n, reached) =>
    match p.checkScheme with
    | .error e => .error (.websocket e)
    | .ok _ => .ok (n, reached)

/-- Lets a probe loose; gives what it logged and what it gives back, if it ever does. -/
def probe (w : World) (o : Options) :
    List Log.Record × Option (Except GatewayError Report) × World :=
  match Plan.ofAddress o.address with
  | .error e => ([], some (.error (.websocket e)), w)
  | .ok p =>
    match w.approach p with
    | .error e => ([], some (.error e), w)
    | .ok (n, w) =>
      let (c, w) := probeWith n (1000 + 2 * o.linger) none (.start o p) w
      (c.log, c.result?, w)

end World

end SocketGateway.Loopback
