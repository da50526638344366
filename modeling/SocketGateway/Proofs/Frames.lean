import SocketGateway.Probe.Visit
import SocketGateway.Proofs.Grammar
import SocketGateway.Proofs.RoundTrip
import SocketGateway.Session.Stage

/-!
# What frames say

A gateway and a probe write a few frames of their own: the greeting, errors, the event of a probe.
Each of them is a text, and here is which message the other side reads in it. The event of a probe is
an object with its members by name, so that the kind comes last. What is proved of sessions and
visits speaks of these frames by name; it is these lemmas that say what the other side gets.
-/

namespace SocketGateway

open SocketGateway.Config (Heartbeat)
open SocketGateway.Json SocketGateway.Message
open SocketGateway.Wire (Frame)

namespace Wire.Frame

/-- A client reads a frame as this message. -/
def Conveys (f : Frame) (m : ServerMessage) : Prop :=
  ∃ text, f = .text text ∧ ServerMessage.decode text = .ok m

/-- A gateway reads a frame as this message. -/
def Asks (f : Frame) (m : ClientMessage) : Prop :=
  ∃ text, f = .text text ∧ ClientMessage.decode text = .ok m

/-- A message of the gateway without arguments is read as it was meant. -/
theorem conveys_encode {m : ServerMessage} (hargs : m.args = [])
    (hdepth : m.toValue.depth ≤ maxDepth) : (Frame.text m.encode).Conveys m := by
  refine ⟨_, rfl, ServerMessage.decode_encode ?_ hdepth⟩
  intro v hv
  rw [hargs] at hv
  cases hv

end Wire.Frame

/-- **A client reads the greeting of its connection**: the id, the namespace and the heartbeat. -/
theorem Stage.conveys_helloFrame (h : Heartbeat) (c : Connection) :
    (helloFrame h c).Conveys (.connected c.id c.ns.text h.interval h.timeout) := by
  apply Frame.conveys_encode rfl
  show 1 ≤ 127
  omega

/-- **A client reads an error as its text.** -/
theorem Drive.conveys_errorFrame (text : String) : (errorFrame text).Conveys (.error text) := by
  apply Frame.conveys_encode rfl
  show 1 ≤ 127
  omega

namespace Probe.Visit

def eventMembers (name : String) : List (String × Value) :=
  [("args", .array []), ("event", .string name), ("type", .string "event")]

/-- **A gateway reads the event of a probe**, whatever its name. -/
theorem asks_eventFrame (name : String) : (eventFrame name).Asks (.event name []) := by
  have hintegral : (Value.object (eventMembers name)).IsIntegral :=
    ⟨trivial, ⟨trivial, trivial⟩, trivial, trivial, trivial⟩
  have hdepth : (Value.object (eventMembers name)).depth ≤ maxDepth := by
    show 2 ≤ 127
    omega
  have hcontents := contents?_render hintegral hdepth
  refine ⟨_, rfl, (ClientMessage.decode_eq_ok_iff fun vs heq => ?_).mpr
    ⟨eventMembers name, hcontents, ?_⟩⟩
  · cases hcontents.symm.trans heq
  · -- the kind is found at the end, and the arguments are there but empty
    exact ⟨rfl, rfl, .inr ⟨[], rfl, rfl⟩⟩

end Probe.Visit

end SocketGateway
