import SocketGateway.Proofs.Listening
import SocketGateway.Proofs.Requests

/-!
# Restarts leave nobody behind

A switchboard is vacant when the registry is empty and no session lives. Only an accepted stream ends
that. A stop makes the board vacant, whatever the sessions do in the meantime: they may register after
the first drain, but the stop goes on only when none of them lives, and the registry is drained once
more then. From that moment until the supervisor accepts streams again the board stays vacant.
-/

namespace SocketGateway

open SocketGateway.Restart (Phase)

namespace Switchboard

/-- **Nobody is there**: the registry is empty, and every session has ended. -/
structure Vacant (b : Switchboard) : Prop where
  nobody : b.registry.size = 0
  silent : b.hasLive = false

namespace Vacant

variable {b b' : Switchboard}

theorem fresh {router : Router HandlerSet} {beat : Config.Heartbeat} {limit : Nat} :
    (Switchboard.fresh router beat limit).Vacant := ⟨rfl, rfl⟩

theorem of_aside (h : b.Vacant) (ha : b.Aside b') : b'.Vacant := by
  refine ⟨?_, ?_⟩
  · rw [ha.registry]
    exact h.nobody
  · rw [hasLive, ha.sessions]
    exact h.silent

theorem drain {code : Wire.CloseCode} {reason : String} (h : b.hasLive = false) :
    (b.drain code reason).2.Vacant := ⟨rfl, h⟩

/-- There is no session that could go on or be cut off. -/
theorem not_live {i : Nat} {st : Stage} (h : b.Vacant) (hst : b.stage? i = some st) :
    st.isLive ≠ true := by
  rw [hasLive_eq_false_iff.mp h.silent i st hst]
  exact Bool.false_ne_true

/-- **A vacant board stays vacant** until a stream is accepted, as long as only sessions
register. -/
theorem perform {deed : Deed} (h : b.Vacant) (haccept : ∀ peer, deed ≠ .accept peer)
    (hown : ∀ ns, deed ≠ .register ns) (hdeed : b.perform deed = some b') : b'.Vacant := by
  cases deed with
  | accept peer => exact absurd rfl (haccept peer)
  | session now i cue =>
      obtain ⟨st, hst, hlive⟩ := (sessionMove_of_advance hdeed).isLive
      exact absurd hlive (h.not_live hst)
  | cutOff i o =>
      obtain ⟨st, hst, hlive, -⟩ := cutOff_cases hdeed
      exact absurd hlive (h.not_live hst)
  | drain code reason =>
      cases hdeed
      exact drain h.silent
  | request =>
      cases hdeed
      exact h.of_aside aside_request
  | transition source target =>
      cases hdeed
      exact h.of_aside aside_transition
  | emit s name args =>
      cases hdeed
      exact h.of_aside aside_emit
  | close s reason =>
      cases hdeed
      exact h.of_aside aside_close
  | register ns => exact absurd rfl (hown ns)

end Vacant

end Switchboard

/-- Whether the supervisor has nobody to care for: it does not accept streams, nor is it stopping
while sessions may still live. -/
def Control.isVacant : Control → Bool
  | .accepting => false
  | .stopping _ stage => stage == .swept
  | _ => true

namespace Gateway

variable {g g' : Gateway} {m : Move} {ms : List Move} {router : Router HandlerSet}
  {beat : Config.Heartbeat} {limit attempts : Nat}

/-! ## The invariant -/

/-- **Between a stop and the next round of a run nobody is there.** -/
structure Emptied (g : Gateway) : Prop where
  listening : g.Listening
  vacant : g.control.isVacant = true → g.board.Vacant

/-- A turn leaves a vacant board vacant. -/
theorem Turn.vacant (h : Turn g m g') (hg : g.board.Vacant) : g'.board.Vacant := by
  have hbrought : g.board.Brought (fun d => d.isOfSupervisor = true) g'.board :=
    h.brought (fun _ hd _ => hd) fun _ => rfl
  refine hbrought.keeps (fun d b b' hd hb hdeed => hb.perform ?_ ?_ hdeed) hg
  · rintro peer rfl
    cases hd
  · rintro ns rfl
    cases hd

/-- A supervisor that cares for sessions is rid of them in no other way than by sweeping. -/
theorem Turn.isVacant_or_sweep (h : Turn g m g') (hl : g.Listening)
    (hg : g.control.isVacant = false) :
    g'.control.isVacant = false ∨ g.board.hasLive = false ∧ g'.board = g.drainAll.board := by
  have not_vacant : ∀ {c}, g.control = c → c.isVacant = false := fun hc => hc ▸ hg
  cases h with
  | unfit control | start control | stop control | rebind control | run control | bound control
  | round control | firstAttempt control | nextAttempt control | stopped control =>
      cases not_vacant control
  | close | drain | graceOver | shutdown => exact .inl rfl
  | sweep _ gone => exact .inr ⟨gone, rfl⟩
  | noticeRestart _ phase =>
      -- the restart is in its first phase, so that the rebind is not refused
      refine beginRebind_cases (P := fun g' => g'.control.isVacant = false ∨ _) (fun _ => .inl rfl) ?_
      exact fun _ hphase => absurd phase hphase
  | nowhere control address =>
      obtain ⟨a, ha⟩ := hl.exists_address control
      cases address.symm.trans ha

theorem Emptied.step (h : g.Emptied) (hown : ∀ ns, m ≠ .register ns)
    (hstep : g.step m = some g') : g'.Emptied := by
  refine ⟨h.listening.step hstep, fun hvacant => ?_⟩
  rcases step_cases hstep with ⟨d, b, hd, hb, rfl, haccept⟩ | ⟨-, hturn⟩
  · -- a stream is accepted only while there are sessions to care for
    refine (h.vacant hvacant).perform ?_ ?_ hb
    · rintro peer rfl
      change g.control.isVacant = true at hvacant
      rw [haccept peer rfl] at hvacant
      cases hvacant
    · rintro ns rfl
      exact hown ns (Move.eq_register hd)
  · cases hg : g.control.isVacant with
    | true => exact hturn.vacant (h.vacant hg)
    | false =>
        rcases hturn.isVacant_or_sweep h.listening hg with hstays | ⟨hgone, hboard⟩
        · rw [hstays] at hvacant
          cases hvacant
        · rw [hboard]
          exact .drain hgone

theorem emptied_of_steps (h : g.steps ms = some g') (hown : ∀ ns, .register ns ∉ ms)
    (hg : g.Emptied) : g'.Emptied := by
  refine steps_induction (K := fun m => ∀ ns, m ≠ .register ns) h ?_ ?_ hg
  · rintro m hm ns rfl
    exact hown ns hm
  · exact fun g m g' hm hg hstep => hg.step hm hstep

theorem Emptied.fresh : (Gateway.fresh (.fresh router beat limit) attempts).Emptied :=
  ⟨.fresh, fun _ => .fresh⟩

/-! ## Which turns move a restart on -/

theorem isVacant_fail {e : GatewayError} : (g.fail e).control.isVacant = true :=
  fail_cases (P := fun g' => g'.control.isVacant = true) (fun _ => rfl) fun _ => rfl

theorem isVacant_moveOn {source target : Phase} {next : Gateway → Gateway}
    (hnext : ∀ g, (next g).control.isVacant = true) :
    (g.moveOn source target next).control.isVacant = true :=
  moveOn_cases (P := fun g' => g'.control.isVacant = true) (fun _ _ => hnext _)
    fun _ _ => isVacant_fail

theorem isVacant_attemptFailed {port : UInt16} {number : Nat} {e : GatewayError} :
    (g.attemptFailed port number e).control.isVacant = true :=
  attemptFailed_cases (P := fun g' => g'.control.isVacant = true) rfl isVacant_fail

theorem isVacant_attemptAgain {port : UInt16} {number : Nat} :
    (g.attemptAgain port number).control.isVacant = true :=
  attemptAgain_cases (P := fun g' => g'.control.isVacant = true) (fun _ => rfl)
    fun _ => isVacant_attemptFailed

theorem isVacant_bindingDone {port : UInt16} {a : Attempt}
    {r : Except GatewayError Net.SocketAddress} :
    (g.bindingDone port a r).control.isVacant = true := by
  cases a with
  | start => cases r <;> rfl
  | rebind number =>
      cases r with
      | error e => exact isVacant_attemptFailed
      | ok address =>
          refine isVacant_moveOn (g := g.hold address) fun g => ?_
          split <;> rfl

theorem isVacant_afterStop {p : StopPurpose} : (g.afterStop p).control.isVacant = true := by
  cases p with
  | stop | shutdown => rfl
  | rebind port => exact isVacant_moveOn fun _ => rfl

/-- A turn that leaves the supervisor with sessions to care for has not moved a restart on. -/
theorem Turn.phase_eq (h : Turn g m g') (hg : g'.control.isVacant = false)
    (hphase : g.board.coordinator.phase ≠ .idle) :
    g'.board.coordinator.phase = g.board.coordinator.phase := by
  have not_vacant : g'.control.isVacant ≠ true := Bool.eq_false_iff.mp hg
  have hrebind : ∀ {port}, (g.beginRebind port).control.isVacant = false →
      (g.beginRebind port).board.coordinator.phase = g.board.coordinator.phase := by
    intro port
    refine beginRebind_cases (P := fun g' => g'.control.isVacant = false →
      g'.board.coordinator.phase = _) (fun _ _ => ?_) fun _ _ _ hvacant => ?_
    · exact Switchboard.Asked.request.phase_eq hphase
    · rw [isVacant_fail] at hvacant
      cases hvacant
  cases h with
  | unfit | start | run | sweep => cases hg
  | stop | close | drain | graceOver | shutdown => rfl
  | rebind | noticeRestart => exact hrebind hg
  | bound => exact absurd isVacant_bindingDone not_vacant
  | stopped => exact absurd isVacant_afterStop not_vacant
  | firstAttempt => exact absurd (isVacant_moveOn fun _ => isVacant_attemptAgain) not_vacant
  | nextAttempt => exact absurd isVacant_attemptAgain not_vacant
  | nowhere => exact absurd isVacant_fail not_vacant
  | round =>
      revert hg
      refine beginRound_cases (P := fun g' => g'.control.isVacant = false →
        g'.board.coordinator.phase = _) (fun _ _ _ => rfl) fun _ hg => ?_
      cases hg

/-- Only a turn after which there is nobody to care for moves a restart on, unless somebody else
does. -/
theorem isVacant_of_phase_ne (hstep : g.step m = some g')
    (hown : ∀ source target, m ≠ .transition source target)
    (hphase : g.board.coordinator.phase ≠ .idle)
    (hmoved : g'.board.coordinator.phase ≠ g.board.coordinator.phase) :
    g'.control.isVacant = true := by
  rcases step_cases hstep with ⟨d, b, hd, hb, rfl, -⟩ | ⟨-, hturn⟩
  · refine absurd (Switchboard.Asked.phase_eq (Switchboard.Asked.perform hb ?_) hphase) hmoved
    rintro source target rfl
    exact hown source target (Move.eq_transition hd)
  · cases hvacant : g'.control.isVacant with
    | true => rfl
    | false => exact absurd (hturn.phase_eq hvacant hphase) hmoved

/-! ## The main result -/

/-- **No session survives a restart.** Take any run in which only sessions register, and a move of it
by which the restart leaves its first or its second phase. From then on, whatever moves come, the
registry is empty and no session lives, until the next stream is accepted. -/
theorem nobody_survives_restart {ms' : List Move} {g₁ g₂ g₃ : Gateway}
    (hrun : (fresh (.fresh router beat limit) attempts).steps ms = some g₁)
    (hstep : g₁.step m = some g₂) (hafter : g₂.steps ms' = some g₃)
    (hphase : (g₁.board.coordinator.phase = .draining ∧ g₂.board.coordinator.phase = .waiting) ∨
      (g₁.board.coordinator.phase = .waiting ∧ g₂.board.coordinator.phase = .rebinding))
    (hturn : ∀ source target, m ≠ .transition source target)
    (hown : ∀ ns, .register ns ∉ ms ++ m :: ms') (haccept : ∀ peer, .accept peer ∉ ms') :
    g₃.board.registry.size = 0 ∧ g₃.board.hasLive = false := by
  simp only [List.mem_append, List.mem_cons, not_or] at hown
  have hemptied : g₁.Emptied := emptied_of_steps hrun (fun ns => (hown ns).1) .fresh
  have hmoved : g₂.control.isVacant = true := by
    rcases hphase with ⟨h₁, h₂⟩ | ⟨h₁, h₂⟩
    · exact isVacant_of_phase_ne hstep hturn (by simp [h₁]) (by simp [h₁, h₂])
    · exact isVacant_of_phase_ne hstep hturn (by simp [h₁]) (by simp [h₁, h₂])
  have hvacant : g₂.board.Vacant :=
    (hemptied.step (fun ns => (hown ns).2.1 ∘ Eq.symm) hstep).vacant hmoved
  -- from here on only an accepted stream could change that
  have hstays : g₃.board.Vacant := by
    refine board_of_steps (K := fun m => m ∈ ms') hafter (fun _ => id) ?_ hvacant
    intro d b b' hd hb hdeed
    refine hb.perform ?_ ?_ hdeed
    · rintro peer rfl
      rcases hd with ⟨m, hm, hd⟩ | hd
      · exact haccept peer (Move.eq_accept hd ▸ hm)
      · cases hd
    · rintro ns rfl
      rcases hd with ⟨m, hm, hd⟩ | hd
      · exact (hown ns).2.2 (Move.eq_register hd ▸ hm)
      · cases hd
  exact ⟨hstays.nobody, hstays.silent⟩

/-- A restart with two sessions, one of which registered after the drain. -/
theorem nobody_survives_restart_straggling :
    ∃ g₁ g₂ g₃, small.steps (straggling ++ [.graceOver, .abort 1, .abort 0, .proceed]) = some g₁ ∧
      g₁.step .proceed = some g₂ ∧ g₁.board.coordinator.phase = .draining ∧
      g₂.board.coordinator.phase = .waiting ∧
      g₂.steps [.delayOver, .bound (.ok smallAddress), .proceed] = some g₃ ∧
      g₃.control = .accepting ∧ g₃.board.registry.size = 0 ∧ g₃.board.hasLive = false := by
  have hmain : ∃ g₁ g₂ g₃,
      small.steps (straggling ++ [.graceOver, .abort 1, .abort 0, .proceed]) = some g₁ ∧
      g₁.step .proceed = some g₂ ∧
      g₂.steps [.delayOver, .bound (.ok smallAddress), .proceed] = some g₃ ∧
      g₁.board.coordinator.phase = .draining ∧ g₂.board.coordinator.phase = .waiting ∧
      g₃.control = .accepting := ⟨_, _, _, rfl, rfl, rfl, rfl, rfl, rfl⟩
  obtain ⟨g₁, g₂, g₃, hrun, hstep, hafter, h₁, h₂, hcontrol⟩ := hmain
  refine ⟨g₁, g₂, g₃, hrun, hstep, h₁, h₂, hafter, hcontrol, ?_⟩
  refine nobody_survives_restart hrun hstep hafter (.inl ⟨h₁, h₂⟩)
    (fun _ _ => Move.noConfusion) (fun ns h => ?_) fun peer h => ?_
  · simp [straggling, opening, joining, draining] at h
  · simp at h

end Gateway

end SocketGateway
