import SocketGateway.Proofs.Restarts

/-!
# The course of a run

Within a run the supervisor goes a course of its own, whatever the sessions do: it accepts streams,
stops, waits, binds, and accepts streams again, or comes to its end. `Duty` is what it does and
holds, and `Course` has one rule for each way in which that changes. A run that has begun with a
listener never leaves the course: the coordinator never refuses to move on, since the supervisor
and the coordinator keep step, and the heartbeat is never at fault, since whoever has bound once
had a sound one.
-/

namespace SocketGateway

open SocketGateway.Net (SocketAddress)
open SocketGateway.Restart (Phase)

/-! ## The heartbeat -/

namespace Switchboard

variable {b b' : Switchboard} {now i : Nat} {c : Connection} {hs : HandlerSet} {d : Drive}

theorem heartbeat_settle : (b.settle i c hs d).heartbeat = b.heartbeat :=
  settle_cases (P := fun b' => b'.heartbeat = b.heartbeat) (fun _ _ _ _ => aside_call.heartbeat)
    fun _ => rfl

theorem heartbeat_wake {occasion : Occasion} :
    (b.wake i now c hs d occasion).heartbeat = b.heartbeat :=
  wake_cases (P := fun b' => b'.heartbeat = b.heartbeat) (fun _ => heartbeat_settle)
    (fun _ _ _ _ => heartbeat_settle.trans aside_call.heartbeat) fun _ _ _ _ => aside_call.heartbeat

theorem SessionMove.heartbeat (h : SessionMove b now i b') : b'.heartbeat = b.heartbeat := by
  cases h with
  | upgrade | ungreeted => rfl
  | join =>
      exact join_cases (P := fun b' => b'.heartbeat = b.heartbeat) (fun _ _ => rfl) fun _ _ => rfl
  | begin =>
      exact begin_cases (P := fun b' => b'.heartbeat = b.heartbeat)
        (fun _ _ => aside_call.heartbeat) fun _ => aside_call.heartbeat
  | written => exact heartbeat_settle
  | woken => exact heartbeat_wake
  | taken => exact heartbeat_wake

/-- No deed changes the heartbeat. -/
theorem heartbeat_perform {deed : Deed} (h : b.perform deed = some b') :
    b'.heartbeat = b.heartbeat := by
  cases deed with
  | session now i cue => exact (sessionMove_of_advance h).heartbeat
  | cutOff i o =>
      obtain ⟨st, -, -, ⟨c, -, rfl⟩ | ⟨-, rfl⟩⟩ := cutOff_cases h
      · rfl
      · rfl
  | register ns =>
      cases h
      simp only [registerLoose]
      split <;> rfl
  | _ =>
      cases h
      rfl

end Switchboard

namespace Gateway

variable {g g' : Gateway} {m : Move} {ms : List Move} {e : GatewayError} {port : UInt16}
  {number : Nat}

/-! ## What is fixed -/

theorem attempts_fail : (g.fail e).attempts = g.attempts :=
  fail_cases (P := fun g' => g'.attempts = g.attempts) (fun _ => rfl) fun _ => rfl

theorem attempts_moveOn {source target : Phase} {next : Gateway → Gateway}
    (hnext : ∀ b, (next { g with board := b }).attempts = g.attempts) :
    (g.moveOn source target next).attempts = g.attempts :=
  moveOn_cases (P := fun g' => g'.attempts = g.attempts) (fun _ _ => hnext _)
    fun _ _ => attempts_fail

theorem attempts_beginRebind : (g.beginRebind port).attempts = g.attempts :=
  beginRebind_cases (P := fun g' => g'.attempts = g.attempts) (fun _ => rfl)
    fun _ _ _ => attempts_fail

theorem attempts_attemptFailed : (g.attemptFailed port number e).attempts = g.attempts :=
  attemptFailed_cases (P := fun g' => g'.attempts = g.attempts) rfl attempts_fail

theorem attempts_attemptAgain : (g.attemptAgain port number).attempts = g.attempts :=
  attemptAgain_cases (P := fun g' => g'.attempts = g.attempts) (fun _ => rfl)
    fun _ => attempts_attemptFailed

theorem attempts_bindingDone {a : Attempt} {r : Except GatewayError SocketAddress} :
    (g.bindingDone port a r).attempts = g.attempts := by
  cases a with
  | start => cases r <;> rfl
  | rebind number =>
      cases r with
      | error e => exact attempts_attemptFailed
      | ok address =>
          refine attempts_moveOn (g := g.hold address) fun b => ?_
          split <;> rfl

/-- No move changes how often a rebind tries to bind. -/
theorem attempts_step (h : g.step m = some g') : g'.attempts = g.attempts := by
  rcases step_cases h with ⟨_, _, _, _, rfl, -⟩ | ⟨-, hturn⟩
  · rfl
  · cases hturn with
    | rebind | noticeRestart => exact attempts_beginRebind
    | bound => exact attempts_bindingDone
    | round =>
        exact beginRound_cases (P := fun g' => g'.attempts = g.attempts) (fun _ _ => rfl)
          fun _ => rfl
    | @stopped p =>
        cases p with
        | stop | shutdown => rfl
        | rebind port => exact attempts_moveOn fun _ => rfl
    | firstAttempt => exact attempts_moveOn fun _ => attempts_attemptAgain
    | nextAttempt => exact attempts_attemptAgain
    | nowhere => exact attempts_fail
    | _ => rfl

theorem attempts_of_steps (hrun : g.steps ms = some g') : g'.attempts = g.attempts :=
  steps_induction (K := fun _ => True) (P := fun g' => g'.attempts = g.attempts) hrun
    (fun _ _ => trivial) (fun _ _ _ _ hg hstep => (attempts_step hstep).trans hg) rfl

/-- No move changes the heartbeat. -/
theorem heartbeat_step (h : g.step m = some g') : g'.board.heartbeat = g.board.heartbeat :=
  (brought_step h).keeps (P := fun b => b.heartbeat = g.board.heartbeat)
    (fun _ _ _ _ hb hdeed => (Switchboard.heartbeat_perform hdeed).trans hb) rfl

/-- **Who binds has a sound heartbeat.** -/
structure Sound (g : Gateway) : Prop where
  held : ∀ a, g.listener = some a → g.board.heartbeat.validate = .ok ()
  binding : ∀ port a, g.control = .binding port a → g.board.heartbeat.validate = .ok ()

namespace Sound

/-- Of a supervisor that does not bind nothing is asked but that of its listener. -/
theorem of_held (hheld : ∀ a, g.listener = some a → g.board.heartbeat.validate = .ok ())
    (hcontrol : ∀ port a, g.control ≠ .binding port a) : g.Sound :=
  ⟨hheld, fun port a h => absurd h (hcontrol port a)⟩

theorem fail (h : g.Sound) : (g.fail e).Sound :=
  fail_cases (fun _ => of_held (fun _ h => by cases h) fun _ _ => Control.noConfusion)
    fun _ => of_held h.held fun _ _ => Control.noConfusion

theorem moveOn {source target : Phase} {next : Gateway → Gateway} (h : g.Sound)
    (hnext : ∀ b : Switchboard, b.heartbeat = g.board.heartbeat →
      (next { g with board := b }).Sound) :
    (g.moveOn source target next).Sound :=
  moveOn_cases (fun _ _ => hnext _ rfl) fun _ _ => h.fail

theorem beginRebind (h : g.Sound) : (g.beginRebind port).Sound := by
  refine beginRebind_cases (fun _ => of_held h.held fun _ _ => Control.noConfusion) fun _ _ _ => ?_
  have hrequested : Gateway.Sound { g with board := g.board.request.2 } := ⟨h.held, h.binding⟩
  exact hrequested.fail

theorem attemptFailed (h : g.Sound) : (g.attemptFailed port number e).Sound :=
  attemptFailed_cases (of_held h.held fun _ _ => Control.noConfusion) h.fail

theorem attemptAgain (h : g.Sound) : (g.attemptAgain port number).Sound :=
  attemptAgain_cases (fun hbeat => ⟨fun _ h => (by cases h), fun _ _ _ => hbeat⟩)
    fun _ => h.attemptFailed

theorem bindingDone {a : Attempt} {r : Except GatewayError SocketAddress} (h : g.Sound)
    (hbeat : g.board.heartbeat.validate = .ok ()) : (g.bindingDone port a r).Sound := by
  cases a with
  | start =>
      cases r with
      | ok address => exact of_held (fun _ _ => hbeat) fun _ _ => Control.noConfusion
      | error e => exact of_held h.held fun _ _ => Control.noConfusion
  | rebind number =>
      cases r with
      | error e => exact h.attemptFailed
      | ok address =>
          have hheld : (g.hold address).Sound := ⟨fun _ _ => hbeat, fun _ _ _ => hbeat⟩
          unfold Gateway.bindingDone
          refine hheld.moveOn fun b hb => ?_
          have hbeat' : b.heartbeat.validate = .ok () := hb ▸ hbeat
          split
          · exact of_held (fun _ _ => hbeat') fun _ _ => Control.noConfusion
          · exact of_held (fun _ _ => hbeat') fun _ _ => Control.noConfusion

theorem turn (h : g.Sound) (hturn : Turn g m g') : g'.Sound := by
  cases hturn with
  | unfit | stop | run | drain | graceOver | sweep | shutdown =>
      exact of_held h.held fun _ _ => Control.noConfusion
  | start _ beat => exact ⟨fun _ h => (by cases h), fun _ _ _ => beat⟩
  | close => exact of_held (fun _ h => by cases h) fun _ _ => Control.noConfusion
  | rebind | noticeRestart => exact h.beginRebind
  | bound control => exact h.bindingDone (h.binding _ _ control)
  | round =>
      refine beginRound_cases (fun _ _ => of_held h.held fun _ _ => Control.noConfusion) fun _ => ?_
      exact of_held (fun _ h => by cases h) fun _ _ => Control.noConfusion
  | @stopped p =>
      cases p with
      | stop | shutdown => exact of_held h.held fun _ _ => Control.noConfusion
      | rebind port =>
          unfold afterStop
          refine h.moveOn fun b hb => of_held (fun a ha => ?_) fun _ _ => Control.noConfusion
          exact hb ▸ h.held a ha
  | firstAttempt =>
      refine h.moveOn fun b hb => ?_
      have hmoved : Gateway.Sound { g with board := b } :=
        ⟨fun a ha => hb ▸ h.held a ha, fun port a hc => hb ▸ h.binding port a hc⟩
      exact hmoved.attemptAgain
  | nextAttempt => exact h.attemptAgain
  | nowhere => exact h.fail

theorem step (h : g.Sound) (hstep : g.step m = some g') : g'.Sound := by
  have hbeat := heartbeat_step hstep
  rcases step_cases hstep with ⟨_, _, _, _, rfl, -⟩ | ⟨-, hturn⟩
  · exact ⟨fun a ha => hbeat ▸ h.held a ha, fun port a hc => hbeat ▸ h.binding port a hc⟩
  · exact h.turn hturn

theorem of_steps (hrun : g.steps ms = some g') (h : g.Sound) : g'.Sound :=
  steps_induction (K := fun _ => True) hrun (fun _ _ => trivial)
    (fun _ _ _ _ hg hstep => hg.step hstep) h

theorem fresh {board : Switchboard} {attempts : Nat} : (Gateway.fresh board attempts).Sound :=
  of_held (fun _ h => by cases h) fun _ _ => Control.noConfusion

end Sound

end Gateway

/-! ## The course -/

/-- Whether a move neither begins a rebind of a run nor ends an attempt to bind. -/
def Move.isPlain : Move → Bool
  | .noticeRestart | .bound _ => false
  | _ => true

def Control.isOnRun : Control → Bool
  | .ready | .stopping .stop _ | .binding _ .start => false
  | _ => true

structure Duty where
  control : Control
  listener : Option SocketAddress
  address : Option SocketAddress

def Gateway.duty (g : Gateway) : Duty := ⟨g.control, g.listener, g.address⟩

/-- **The course of a run** in which a rebind has so many attempts. A round begins (`round`),
unless no listener is held (`unheld`). A restart is noticed, or it is time to shut down. A stop
closes the listener, goes through its other stages, and comes to its end (`stopped`, `wait`). An
attempt to bind begins, and succeeds (`bound`); it fails and another one will follow, or none. All
other moves leave the duty as it is. -/
inductive Course (n : Nat) (d : Duty) : Move → Duty → Prop
  | aside {m : Move} (plain : m.isPlain = true) : Course n d m d
  | round {a : SocketAddress} (control : d.control = .looping) (held : d.listener = some a) :
      Course n d .proceed { d with control := .accepting }
  | unheld (control : d.control = .looping) (held : d.listener = none) :
      Course n d .proceed ⟨.finished (.error .notStarted), none, d.address⟩
  | notice {a : SocketAddress} (control : d.control = .accepting) (address : d.address = some a) :
      Course n d .noticeRestart { d with control := .stopping (.rebind a.port) .closing }
  | shutdown (control : d.control = .accepting) :
      Course n d .shutdown { d with control := .stopping .shutdown .closing }
  | close {p : StopPurpose} (control : d.control = .stopping p .closing) :
      Course n d .proceed ⟨.stopping p .draining, none, d.address⟩
  | stage {m : Move} {p : StopPurpose} {s s' : StopStage} (control : d.control = .stopping p s)
      (closed : s ≠ .closing) (closed' : s' ≠ .closing) (plain : m.isPlain = true) :
      Course n d m { d with control := .stopping p s' }
  | stopped (control : d.control = .stopping .shutdown .swept) :
      Course n d .proceed { d with control := .finished (.ok ()) }
  | wait {port : UInt16} (control : d.control = .stopping (.rebind port) .swept) :
      Course n d .proceed { d with control := .delaying port 1 }
  | attempt {port : UInt16} {k : Nat} (control : d.control = .delaying port k) :
      Course n d .delayOver ⟨.binding port (.rebind k), none, d.address⟩
  | bound {port : UInt16} {k : Nat} {a : SocketAddress}
      (control : d.control = .binding port (.rebind k)) :
      Course n d (.bound (.ok a)) ⟨.looping, some a, some a⟩
  | retry {port : UInt16} {k : Nat} {e : GatewayError}
      (control : d.control = .binding port (.rebind k)) (more : k < n) :
      Course n d (.bound (.error e)) { d with control := .delaying port (k + 1) }
  | giveUp {port : UInt16} {k : Nat} {e : GatewayError}
      (control : d.control = .binding port (.rebind k)) (last : n ≤ k) :
      Course n d (.bound (.error e)) ⟨.finished (.error e), none, d.address⟩

theorem Course.isOnRun {n : Nat} {d d' : Duty} {m : Move} (h : Course n d m d')
    (hd : d.control.isOnRun = true) : d'.control.isOnRun = true := by
  cases h with
  | aside => exact hd
  | @close p control | @stage _ p _ _ control =>
      rw [control] at hd
      cases p with
      | stop => cases hd
      | rebind | shutdown => rfl
  | _ => rfl

theorem Move.isPlain_of_deed? {m : Move} {d : Deed} (h : m.deed? = some d) : m.isPlain = true := by
  cases m with
  | noticeRestart | bound => cases h
  | _ => rfl

namespace Gateway

variable {g g' : Gateway} {m : Move} {ms : List Move} {e : GatewayError} {port : UInt16}
  {number : Nat} {P : Gateway → Prop}

theorem attemptAgain_of_sound (hbeat : g.board.heartbeat.validate = .ok ())
    (h : P { g with listener := none, control := .binding port (.rebind number) }) :
    P (g.attemptAgain port number) := by
  unfold attemptAgain attempt
  rw [hbeat]
  exact h

/-- **A run on its course**: the supervisor and the coordinator keep step, and the heartbeat is
sound. -/
structure OnRun (g : Gateway) : Prop where
  paced : g.Paced
  running : g.running = true
  busy : g.control.isOnRun = true
  beat : g.board.heartbeat.validate = .ok ()

structure Goes (g : Gateway) (m : Move) (g' : Gateway) : Prop where
  course : Course (max 1 g.attempts) g.duty m g'.duty
  running : g'.running = true

theorem OnRun.goes_of_result (h : g.OnRun) {r : Except GatewayError SocketAddress}
    (hcontrol : g.control = .binding port (.rebind number)) :
    g.Goes (.bound r) (g.bindingDone port (.rebind number) r) := by
  cases r with
  | ok a =>
      have hagrees := h.paced.agrees
      rw [hcontrol] at hagrees
      unfold bindingDone
      refine moveOn_of_phase (P := g.Goes _) hagrees.2 rfl ?_
      rw [if_pos (show (g.hold a).running = true from h.running)]
      exact ⟨.bound hcontrol, h.running⟩
  | error e =>
      show g.Goes (.bound (.error e)) (g.attemptFailed port number e)
      unfold attemptFailed fail
      rw [if_pos h.running]
      split
      · exact ⟨.retry hcontrol ‹_›, h.running⟩
      · rename_i hlast
        exact ⟨.giveUp hcontrol (Nat.le_of_not_lt hlast), h.running⟩

theorem OnRun.goes_of_turn (h : g.OnRun) (hturn : Turn g m g') : g.Goes m g' := by
  have hagrees := h.paced.agrees
  have hbusy := h.busy
  cases hturn with
  | unfit control | start control | stop control | rebind control | run control =>
      rw [control] at hbusy
      cases hbusy
  | @bound port a r control =>
      cases a with
      | start =>
          rw [control] at hbusy
          cases hbusy
      | rebind number => exact h.goes_of_result control
  | round control =>
      refine beginRound_cases (P := g.Goes .proceed) (fun a ha => ?_) fun hnone => ?_
      · exact ⟨.round control ha, h.running⟩
      · exact ⟨.unheld control hnone, h.running⟩
  | close control => exact ⟨.close control, h.running⟩
  | drain control =>
      exact ⟨.stage control StopStage.noConfusion StopStage.noConfusion rfl, h.running⟩
  | graceOver control =>
      exact ⟨.stage control StopStage.noConfusion StopStage.noConfusion rfl, h.running⟩
  | sweep control =>
      exact ⟨.stage control StopStage.noConfusion StopStage.noConfusion rfl, h.running⟩
  | @stopped p control =>
      rw [control] at hagrees hbusy
      cases p with
      | stop => cases hbusy
      | shutdown => exact ⟨.stopped control, h.running⟩
      | rebind port =>
          unfold afterStop
          refine moveOn_of_phase (P := g.Goes _) hagrees rfl ?_
          exact ⟨.wait control, h.running⟩
  | @firstAttempt port control =>
      rw [control] at hagrees
      have hphase : g.board.coordinator.phase = .waiting := by
        rcases hagrees with ⟨-, hphase⟩ | ⟨hlt, -⟩
        · exact hphase
        · exact absurd hlt (Nat.lt_irrefl 1)
      refine moveOn_of_phase (P := g.Goes _) hphase rfl (attemptAgain_of_sound h.beat ?_)
      exact ⟨.attempt control, h.running⟩
  | nextAttempt control =>
      refine attemptAgain_of_sound (P := g.Goes _) h.beat ?_
      exact ⟨.attempt control, h.running⟩
  | noticeRestart control phase address =>
      refine beginRebind_cases (P := g.Goes .noticeRestart) (fun _ => ?_) fun _ hne => ?_
      · exact ⟨.notice control address, h.running⟩
      · exact absurd phase hne
  | nowhere control address =>
      obtain ⟨a, ha⟩ := h.paced.listening.exists_address control
      cases address.symm.trans ha
  | shutdown control => exact ⟨.shutdown control, h.running⟩

/-- **A run stays on its course**, whatever moves come, as long as restarts are left to it. -/
theorem OnRun.step (h : g.OnRun) (hm : m.leavesRestarts = true) (hstep : g.step m = some g') :
    g'.OnRun ∧ g.Goes m g' := by
  have hgoes : g.Goes m g' := by
    rcases step_cases hstep with ⟨d, b, hd, -, rfl, -⟩ | ⟨-, hturn⟩
    · exact ⟨.aside (Move.isPlain_of_deed? hd), h.running⟩
    · exact h.goes_of_turn hturn
  refine ⟨⟨h.paced.step hm hstep, hgoes.running, hgoes.course.isOnRun h.busy, ?_⟩, hgoes⟩
  rw [heartbeat_step hstep]
  exact h.beat

end Gateway

end SocketGateway
