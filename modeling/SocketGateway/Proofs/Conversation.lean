import SocketGateway.Proofs.Frames
import SocketGateway.Proofs.Trigger

/-!
# What a probe and a gateway say to each other

A gateway greets with a message that the probe reads as it was meant, takes down, and answers with
its event. A gateway reads that as the event of its name, without arguments; on a gateway with the
standard handlers it starts a restart if it has the configured name and no restart is under way.
-/

namespace SocketGateway

open SocketGateway.Json (Value)
open SocketGateway.Restart (Coordinator)
open SocketGateway.Wire (Frame)

namespace Probe.Visit

variable {o : Options} {v : Visit} {f : Frame} {sid ns : String} {interval timeout : UInt64}

/-- A probe that is greeted takes down its id and has its event to write, if it has one. -/
theorem step_greeted (h : v.doing = .listening)
    (hf : f.Conveys (.connected sid ns interval timeout)) :
    (v.step o (.inbound f)).report = { v.report with sid := some sid } ∧
      (v.step o (.inbound f)).pending? = o.emit.map eventFrame := by
  obtain ⟨text, rfl, hdecode⟩ := hf
  have hstep : v.step o (.inbound (.text text)) =
      v.take o (.connected sid ns interval timeout) := by
    simp only [step, h, hdecode]
  rw [hstep]
  constructor
  · rfl
  · cases hemit : o.emit with
    | none => simp [take, pending?, hemit]
    | some event => simp [take, pending?, hemit]

end Probe.Visit

namespace Gateway

variable {s : Config.Settings} {ms : List Move} {g g' : Gateway} {now i : Nat} {c : Connection}
  {hs : HandlerSet} {d : Drive} {name : String} {f : Frame}

/-! ## Gateways with one handler set -/

theorem uniform_of_steps (h : g.steps ms = some g') (hg : g.board.Uniform hs) :
    g'.board.Uniform hs := by
  refine board_of_steps (K := fun _ => True) h (fun _ _ => trivial) ?_ hg
  intro d b b' _ hb hdeed
  exact hb.perform hdeed

/-- An open connection that waits takes any frame of its client. -/
theorem exists_step_inbound (now : Nat) (hst : g.board.stage? i = some (.open c hs d))
    (hd : d.mode = .waiting) (f : Frame) : ∃ b, g.board.advance now i (.inbound f) = some b ∧
      g.step (.session now i (.inbound f)) = some { g with board := b } := by
  have hadvance : ∃ b, g.board.advance now i (.inbound f) = some b := by
    simp [Switchboard.advance, hst, hd]
  obtain ⟨b, hb⟩ := hadvance
  exact ⟨b, hb, by simp [step, hb]⟩

/-- **What an event does to the coordinator**, with the standard handlers. -/
theorem coordinator_of_event {b : Switchboard} (huniform : g.board.Uniform (.standard name))
    {event : String} {args : List Value} (hf : f.Asks (.event event args))
    (hadvance : g.board.advance now i (.inbound f) = some b) :
    b.coordinator =
      if event = name then g.board.coordinator.request.2 else g.board.coordinator := by
  obtain ⟨text, rfl, hdecode⟩ := hf
  have htrigger : (Cue.inbound (.text text)).isTrigger name = decide (event = name) := by
    simp [Cue.isTrigger, Wire.Frame.isTrigger, hdecode]
  rw [Switchboard.coordinator_advance huniform hadvance, htrigger]
  by_cases h : event = name <;> simp [h]

/-! ## The main result -/

/-- **A probe and a gateway understand each other.** Take a gateway of any settings with the
standard handlers, at any point of any run.

* The event that a probe writes is read as the event of that name without arguments.
* Any open connection that waits, of any namespace, takes it; and it starts a restart exactly if it
  has the configured name and no restart is under way. Otherwise nothing happens to the coordinator.
* The greeting of a connection is read by a probe with exactly the id, the namespace and the
  heartbeat of the gateway.
* A probe that is greeted reports that id, and has its event to write, if it has one. -/
theorem probe_and_gateway_agree
    (hrun : (ofSettings s (.standard s.restartEvent)).steps ms = some g) :
    (∀ event, ∃ text, Probe.Visit.eventFrame event = .text text ∧
      ClientMessage.decode text = .ok (.event event [])) ∧
    (∀ event now i c hs d, g.board.stage? i = some (.open c hs d) → d.mode = .waiting →
      ∃ g', g.step (.session now i (.inbound (Probe.Visit.eventFrame event))) = some g' ∧
        (event = s.restartEvent ∧ g.board.coordinator.phase = .idle →
          g'.board.coordinator = g.board.coordinator.enter .draining) ∧
        (¬(event = s.restartEvent ∧ g.board.coordinator.phase = .idle) →
          g'.board.coordinator = g.board.coordinator)) ∧
    (∀ h c, ∃ text, Stage.helloFrame h c = .text text ∧
      ServerMessage.decode text = .ok (.connected c.id c.ns.text h.interval h.timeout)) ∧
    (∀ o h c, ∀ v : Probe.Visit, v.doing = .listening →
      (v.step o (.inbound (Stage.helloFrame h c))).report = { v.report with sid := some c.id } ∧
        (v.step o (.inbound (Stage.helloFrame h c))).pending? =
          o.emit.map Probe.Visit.eventFrame) := by
  have huniform : g.board.Uniform (.standard s.restartEvent) := uniform_of_steps hrun .fresh
  refine ⟨Probe.Visit.asks_eventFrame, ?_, Stage.conveys_helloFrame, ?_⟩
  · intro event now i c hs d hst hd
    obtain ⟨b, hadvance, hstep⟩ := exists_step_inbound now hst hd (Probe.Visit.eventFrame event)
    have hcoordinator :=
      coordinator_of_event huniform (Probe.Visit.asks_eventFrame event) hadvance
    refine ⟨_, hstep, ?_, ?_⟩
    · rintro ⟨hname, hidle⟩
      rw [hcoordinator, if_pos hname, Coordinator.request, if_pos hidle]
    · intro hnot
      rw [hcoordinator]
      split
      · rename_i hname
        have hbusy : g.board.coordinator.phase ≠ .idle := fun hidle => hnot ⟨hname, hidle⟩
        rw [Coordinator.request, if_neg hbusy]
      · rfl
  · intro o h c v hv
    exact Probe.Visit.step_greeted hv (Stage.conveys_helloFrame h c)

def awkwardSettings : Config.Settings :=
  { Config.Settings.default with restartEvent := "\x00\"😀\\" }

/-- A probe sends that event on the first connection of such a gateway, and a restart starts. -/
theorem probe_and_gateway_agree_awkward :
    ∃ g c hs d g', (ofSettings awkwardSettings (.standard awkwardSettings.restartEvent)).steps
        (opening ++ joining 0) = some g ∧
      g.board.stage? 0 = some (.open c hs d) ∧ d.mode = .waiting ∧
      g.board.coordinator.phase = .idle ∧
      g.step (.session 5 0 (.inbound (Probe.Visit.eventFrame awkwardSettings.restartEvent))) =
        some g' ∧
      g'.board.coordinator = g.board.coordinator.enter .draining := by
  have hopened : ∃ g c hs d,
      (ofSettings awkwardSettings (.standard awkwardSettings.restartEvent)).steps
        (opening ++ joining 0) = some g ∧
      g.board.stage? 0 = some (.open c hs d) ∧ d.mode = .waiting ∧
      g.board.coordinator.phase = .idle := ⟨_, _, _, _, rfl, rfl, rfl, rfl⟩
  obtain ⟨g, c, hs, d, hrun, hst, hd, hidle⟩ := hopened
  obtain ⟨-, hheard, -, -⟩ := probe_and_gateway_agree hrun
  obtain ⟨g', hstep, hstarted, -⟩ := hheard awkwardSettings.restartEvent 5 0 c hs d hst hd
  exact ⟨g, c, hs, d, g', hrun, hst, hd, hidle, hstep, hstarted ⟨rfl, hidle⟩⟩

end Gateway

end SocketGateway
