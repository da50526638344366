import SocketGateway.Proofs.Moves

/-!
# The listener

A supervisor that accepts streams holds a listener, and it knows where that listens: the address it
remembers is the one of the listener it holds. So when it notices a restart it always knows the port
to bind again at.
-/

namespace SocketGateway

open SocketGateway.Restart (Phase)

namespace Gateway

/-- **The listener and what is known of it.** -/
structure Listening (g : Gateway) : Prop where
  known : ∀ a, g.listener = some a → g.address = some a
  held : g.control = .accepting → ∃ a, g.listener = some a

namespace Listening

variable {g g' : Gateway} {m : Move} {ms : List Move} {e : GatewayError} {port : UInt16}
  {number : Nat}

/-- Of a supervisor that does not accept streams nothing but the address is asked. -/
theorem of_control (hknown : ∀ a, g.listener = some a → g.address = some a)
    (hcontrol : g.control ≠ .accepting) : g.Listening :=
  ⟨hknown, fun h => absurd h hcontrol⟩

theorem fail (h : g.Listening) : (g.fail e).Listening :=
  fail_cases (fun _ => of_control (fun _ h => by cases h) Control.noConfusion)
    fun _ => of_control h.known Control.noConfusion

theorem moveOn {source target : Phase} {next : Gateway → Gateway} (h : g.Listening)
    (hnext : ∀ b, (next { g with board := b }).Listening) :
    (g.moveOn source target next).Listening :=
  moveOn_cases (fun _ _ => hnext _) fun _ _ => h.fail

theorem beginRebind (h : g.Listening) : (g.beginRebind port).Listening := by
  refine beginRebind_cases (fun _ => of_control h.known Control.noConfusion) fun _ _ _ => ?_
  have hrequested : Gateway.Listening { g with board := g.board.request.2 } := ⟨h.known, h.held⟩
  exact hrequested.fail

theorem attemptFailed (h : g.Listening) : (g.attemptFailed port number e).Listening :=
  attemptFailed_cases (of_control h.known Control.noConfusion) h.fail

theorem attemptAgain (h : g.Listening) : (g.attemptAgain port number).Listening :=
  attemptAgain_cases (fun _ => of_control (fun _ h => by cases h) Control.noConfusion)
    fun _ => h.attemptFailed

theorem bindingDone {a : Attempt} {r : Except GatewayError Net.SocketAddress}
    (h : g.Listening) : (g.bindingDone port a r).Listening := by
  cases a with
  | start =>
      cases r with
      | ok address => exact of_control (fun _ h => h) Control.noConfusion
      | error e => exact of_control h.known Control.noConfusion
  | rebind number =>
      cases r with
      | error e => exact h.attemptFailed
      | ok address =>
          have hheld : (g.hold address).Listening := ⟨fun _ h => h, fun _ => ⟨address, rfl⟩⟩
          unfold Gateway.bindingDone
          refine hheld.moveOn fun b => ?_
          split
          · exact of_control hheld.known Control.noConfusion
          · exact of_control hheld.known Control.noConfusion

theorem turn (h : g.Listening) (hturn : Turn g m g') : g'.Listening := by
  cases hturn with
  | unfit | stop | run | drain | graceOver | sweep | shutdown =>
      exact of_control h.known Control.noConfusion
  | start | close => exact of_control (fun _ h => by cases h) Control.noConfusion
  | rebind | noticeRestart => exact h.beginRebind
  | bound => exact h.bindingDone
  | round =>
      refine beginRound_cases (fun a ha => ⟨h.known, fun _ => ⟨a, ha⟩⟩) fun _ => ?_
      exact of_control (fun _ h => by cases h) Control.noConfusion
  | @stopped p =>
      cases p with
      | stop | shutdown => exact of_control h.known Control.noConfusion
      | rebind port =>
          unfold afterStop
          refine h.moveOn fun b => ?_
          exact of_control h.known Control.noConfusion
  | firstAttempt =>
      refine h.moveOn fun b => ?_
      have hmoved : Gateway.Listening { g with board := b } := ⟨h.known, h.held⟩
      exact hmoved.attemptAgain
  | nextAttempt => exact h.attemptAgain
  | nowhere => exact h.fail

/-- Every move keeps it. -/
theorem step (h : g.Listening) (hstep : g.step m = some g') : g'.Listening := by
  rcases step_cases hstep with ⟨_, _, _, _, rfl, -⟩ | ⟨-, hturn⟩
  · exact ⟨h.known, h.held⟩
  · exact h.turn hturn

theorem fresh {board : Switchboard} {attempts : Nat} : (Gateway.fresh board attempts).Listening :=
  of_control (fun _ h => by cases h) Control.noConfusion

/-- **A supervisor that accepts streams knows its address.** -/
theorem exists_address (h : g.Listening) (hcontrol : g.control = .accepting) :
    ∃ a, g.address = some a := by
  obtain ⟨a, ha⟩ := h.held hcontrol
  exact ⟨a, h.known a ha⟩

end Listening

end Gateway

end SocketGateway
