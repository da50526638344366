import SocketGateway.Loopback.World

/-!
# Time in a world

A world is let go on until nothing more can happen at the present time, or until something is the
case, and then the clock goes from one timer to the next. Waiting has an end: who waits for
something that does not come to pass gives up.
-/

namespace SocketGateway.Loopback.World

/-! ## At one time -/

def act (w : World) : Option World :=
  ((List.range w.links.length).findSome? w.serve).orElse fun _ => w.tend

/-- Goes on at the present time until nothing more can happen, at most `fuel` times. -/
def settleWith : Nat → World → World
  | 0, w => w
  | fuel + 1, w =>
    match w.act with
    | some w => settleWith fuel w
    | none => w

/-- More than what can happen at one time: every byte and every frame is read and answered once,
and every party goes through its stages. -/
def bound (w : World) : Nat :=
  let bytes := w.links.foldl (fun n l => n + l.toGateway.length + l.receiver.buffer.length) 0
  let frames := w.gateway.board.rooms.boxes.foldl (fun n b => n + b.frames.length) 0
  1000 + 8 * (bytes + frames) + 100 * (w.links.length + w.gateway.board.sessions.length)

def settle (w : World) : World := settleWith w.bound w

/-! ## From timer to timer -/

def timers (w : World) : List Nat :=
  let ticks := w.gateway.board.sessions.filterMap fun s =>
    match s.stage with
    | .open _ _ d => some d.nextTick
    | _ => none
  if w.supervised then w.supervisorTimer?.toList ++ ticks else ticks

def nextTimer? (w : World) : Option Nat := (w.timers.filter (w.now < ·)).min?

/-- Goes on until `holds`, or until a time; says whether it came to hold. Every step but the last
one makes it later. -/
def awaitWith (holds : World → Bool) (deadline : Nat) : Nat → World → Bool × World
  | 0, w => (false, w)
  | fuel + 1, w =>
    let w := w.settle
    if holds w then (true, w)
    else
      match w.nextTimer? with
      | some t =>
        if t ≤ deadline then awaitWith holds deadline fuel { w with now := t }
        else (false, { w with now := deadline })
      | none => (false, { w with now := deadline })

def patience : Nat := 2000

/-- Goes on until `holds`, as long as patience lasts. -/
def await (w : World) (holds : World → Bool) : Bool × World :=
  awaitWith holds (w.now + patience) (patience + 1) w

/-- Goes on until a client can read something, as long as patience lasts; what it reads is gone
from its link. -/
def awaitOn {α : Type} (w : World) (n : Nat) (read : Link → Option (α × Link)) : Option α × World :=
  let w := (w.await fun w => ((w.links[n]?).bind read).isSome).2
  match (w.links[n]?).bind read with
  | some (a, l) => (some a, w.setLink n l)
  | none => (none, w)

/-- Goes on until the supervisor is done with a call, however long that takes. -/
def finishCall : Nat → World → World
  | 0, w => w
  | fuel + 1, w =>
    let w := w.settle
    match w.gateway.control with
    | .ready | .finished _ => w
    | _ =>
      match w.nextTimer? with
      | some t => finishCall fuel { w with now := t }
      | none => w

def call (w : World) (m : Move) : World :=
  finishCall (w.gateway.attempts + 8) (w.supervise m)

end SocketGateway.Loopback.World
