import SocketGateway.Proofs.Listening
import SocketGateway.Proofs.Requests

/-!
# Restarts keep step with the supervisor

A supervisor that starts and runs shares its coordinator with everybody who asks for restarts. What
they do never gets in its way: at each point of a restart it finds the phase that it left, so that
it can always move on; a request that was granted waits until the supervisor notices it; and each
granted request is one restart, done or under way.

`Control.agrees` is the phase at each point, `Counted` the balance of requests and restarts. Requests
keep both, whenever they come, and so does every turn.
-/

namespace SocketGateway

open SocketGateway.Restart (Coordinator Phase)

/-! ## The phase at each point -/

/-- Which phases there may be at a point of the supervisor. A request alone leads from one to the
other of the two phases outside a restart. -/
def Control.agrees : Control → Phase → Prop
  | .stopping (.rebind _) _, p => p = .draining
  | .delaying _ number, p => number = 1 ∧ p = .waiting ∨ 1 < number ∧ p = .rebinding
  | .binding _ (.rebind number), p => 0 < number ∧ p = .rebinding
  | .finished _, _ => True
  | _, p => p = .idle ∨ p = .draining

def Control.isRestarting : Control → Bool
  | .stopping (.rebind _) _ | .delaying .. | .binding _ (.rebind _) => true
  | _ => false

/-- Whether the supervisor may be at a point only within a run, unless somebody calls it to
rebind. -/
def Control.isOfRun : Control → Bool
  | .looping | .accepting => true
  | c => c.isRestarting

namespace Control

variable {c : Control} {p : Phase}

/-- A request may come at any point where there is no restart. -/
theorem agrees_draining (h : c.agrees .idle) : c.agrees .draining := by
  unfold agrees at h ⊢
  split at h
  · cases h
  · rcases h with ⟨-, h⟩ | ⟨-, h⟩ <;> cases h
  · cases h.2
  · trivial
  · exact .inr rfl

theorem isRestarting_stopping {purpose : StopPurpose} {stage stage' : StopStage} :
    (stopping purpose stage).isRestarting = (stopping purpose stage').isRestarting := by
  cases purpose <;> rfl

/-- In the middle of a restart there is one. -/
theorem ne_idle_of_agrees (h : c.agrees p) (hc : c.isRestarting = true) : p ≠ .idle := by
  rintro rfl
  unfold isRestarting at hc
  split at hc
  · cases h
  · rcases h with ⟨-, h⟩ | ⟨-, h⟩ <;> cases h
  · cases h.2
  · cases hc

end Control

/-! ## Requests and restarts -/

/-- **Each granted request is a restart**: one that has come to its end, or the one under way. The
number of those that ended is kept modulo its width. -/
def Counted (c : Coordinator) (answers : List Bool) : Prop :=
  ∃ n : Nat, c.completed = UInt64.ofNat n ∧
    answers.count true = n + if c.phase = .idle then 0 else 1

namespace Counted

variable {c : Coordinator} {answers : List Bool}

theorem initial : Counted .initial [] := ⟨0, rfl, rfl⟩

theorem request (h : Counted c answers) : Counted c.request.2 (c.request.1 :: answers) := by
  obtain ⟨n, hn, hcount⟩ := h
  unfold Coordinator.request
  by_cases hphase : c.phase = .idle
  · rw [if_pos hphase] at hcount ⊢
    refine ⟨n, hn, ?_⟩
    rw [List.count_cons_self, hcount]
    rfl
  · rw [if_neg hphase] at hcount ⊢
    refine ⟨n, hn, ?_⟩
    rw [if_neg hphase, List.count_cons_of_ne Bool.false_ne_true, hcount]

/-- A restart that moves on is still counted once. -/
theorem enter {p : Phase} (h : Counted c answers) (hphase : c.phase ≠ .idle) :
    Counted (c.enter p) answers := by
  obtain ⟨n, hn, hcount⟩ := h
  rw [if_neg hphase] at hcount
  unfold Coordinator.enter
  by_cases hp : p = .idle
  · refine ⟨n + 1, ?_, ?_⟩
    · rw [if_pos hp, hn, UInt64.ofNat_add]
      rfl
    · rw [if_pos hp, hcount]
  · refine ⟨n, ?_, ?_⟩
    · rw [if_neg hp, hn]
    · rw [if_neg hp, hcount]

/-- The balance, with the counter as wide as it is. -/
theorem toUInt64 (h : Counted c answers) :
    UInt64.ofNat (answers.count true) = c.completed + if c.phase = .idle then 0 else 1 := by
  obtain ⟨n, hn, hcount⟩ := h
  rw [hcount, hn, UInt64.ofNat_add]
  split <;> rfl

/-- The balance, as long as the counter has not wrapped around. -/
theorem toNat (h : Counted c answers) (hsize : answers.count true < UInt64.size) :
    answers.count true = c.completed.toNat + if c.phase = .idle then 0 else 1 := by
  obtain ⟨n, hn, hcount⟩ := h
  have hlt : n < UInt64.size := by omega
  rw [hcount, hn, UInt64.toNat_ofNat_of_lt' hlt]

end Counted

namespace Switchboard

variable {b b' : Switchboard} {source target : Phase}

/-- **A request is granted only outside a restart**, and begins one. -/
theorem Asked.granted (h : b.Asked b') (hcount : b.answers.count true < b'.answers.count true) :
    b.coordinator.phase = .idle ∧ b'.coordinator.phase = .draining := by
  -- either nothing was granted yet, or the first phase has begun and nothing more is granted
  have hstate : (b'.coordinator.phase = b.coordinator.phase ∧
      b'.answers.count true = b.answers.count true) ∨
      (b.coordinator.phase = .idle ∧ b'.coordinator.phase = .draining) := by
    refine h.keeps (P := fun c as => (c.phase = b.coordinator.phase ∧
      as.count true = b.answers.count true) ∨
      (b.coordinator.phase = .idle ∧ c.phase = .draining)) ?_ (.inl ⟨rfl, rfl⟩)
    intro c as hc
    unfold Coordinator.request
    split <;> rename_i hidle
    · rcases hc with ⟨hphase, -⟩ | ⟨-, hphase⟩
      · exact .inr ⟨hphase.symm.trans hidle, rfl⟩
      · cases hidle.symm.trans hphase
    · exact hc.imp_left fun ⟨hphase, hsame⟩ =>
        ⟨hphase, (List.count_cons_of_ne Bool.false_ne_true).trans hsame⟩
  rcases hstate with ⟨-, hsame⟩ | hgranted
  · exact absurd hcount (by rw [hsame]; exact Nat.lt_irrefl _)
  · exact hgranted

theorem transition_of_phase (hphase : b.coordinator.phase = source)
    (hnext : source.next = target) : b.transition source target =
      (.ok (), { b with coordinator := b.coordinator.enter target }) := by
  unfold transition Coordinator.transition
  rw [if_pos ⟨hphase, hnext⟩]

theorem transition_ok (hphase : b.coordinator.phase = source) (hnext : source.next = target) :
    (b.transition source target).1 = .ok () := by
  rw [transition_of_phase hphase hnext]

end Switchboard

/-! ## The invariant -/

/-- Whether a move leaves restarts to the run: nobody calls for another one and nobody else moves
the coordinator on, and an attempt to bind that fails has an error of its own. -/
def Move.leavesRestarts : Move → Bool
  | .rebind _ | .transition .. | .bound (.error (.invalidTransition _)) => false
  | _ => true

namespace Gateway

variable {g g' : Gateway} {m : Move} {ms : List Move} {e : GatewayError} {port : UInt16}
  {number : Nat}

/-- **The supervisor and the coordinator keep step.** -/
structure Paced (g : Gateway) : Prop where
  listening : g.Listening
  agrees : g.control.agrees g.board.coordinator.phase
  counted : Counted g.board.coordinator g.board.answers
  running : g.control.isOfRun = true → g.running = true
  /-- No run ends because the coordinator was out of step. -/
  valid : ∀ t, g.control ≠ .finished (.error (.invalidTransition t))

/-- The supervisor finds the phase that it left. -/
theorem moveOn_of_phase {P : Gateway → Prop} {source target : Phase} {next : Gateway → Gateway}
    (hphase : g.board.coordinator.phase = source) (hnext : source.next = target)
    (h : P (next { g with
      board := { g.board with coordinator := g.board.coordinator.enter target } })) :
    P (g.moveOn source target next) := by
  unfold moveOn
  rw [Switchboard.transition_of_phase hphase hnext]
  exact h

namespace Paced

theorem fresh {router : Router HandlerSet} {beat : Config.Heartbeat} {limit attempts : Nat} :
    (Gateway.fresh (.fresh router beat limit) attempts).Paced where
  listening := .fresh
  agrees := .inl rfl
  counted := .initial
  running h := by cases h
  valid _ := Control.noConfusion

theorem deed {b : Switchboard} (h : g.Paced) (hasked : g.board.Asked b) :
    Paced { g with board := b } := by
  -- the control stays where it is, so that each request has to keep the phase agreeable
  have hkept : g.control.agrees b.coordinator.phase ∧ Counted b.coordinator b.answers := by
    refine hasked.keeps (P := fun c as => g.control.agrees c.phase ∧ Counted c as) ?_
      ⟨h.agrees, h.counted⟩
    rintro c as ⟨hagrees, hcounted⟩
    refine ⟨?_, hcounted.request⟩
    unfold Coordinator.request
    split <;> rename_i hphase
    · rw [hphase] at hagrees
      exact Control.agrees_draining hagrees
    · exact hagrees
  exact ⟨⟨h.listening.known, h.listening.held⟩, hkept.1, hkept.2, h.running, h.valid⟩

/-! ### Turns within a restart -/

theorem finish {r : Except GatewayError Unit}
    (hcounted : Counted g.board.coordinator g.board.answers)
    (hr : ∀ t, r ≠ .error (.invalidTransition t)) : (g.finish r).Paced where
  listening := .of_control (fun _ h => by cases h) Control.noConfusion
  agrees := trivial
  counted := Switchboard.Asked.abortAll.keeps (fun _ _ => Counted.request) hcounted
  running h := by cases h
  valid t h := hr t (Control.finished.inj h)

theorem attemptFailed (hlistening : g.Listening)
    (hcounted : Counted g.board.coordinator g.board.answers)
    (hphase : g.board.coordinator.phase = .rebinding) (hrunning : g.running = true)
    (hnumber : 0 < number) (he : ∀ t, e ≠ .invalidTransition t) :
    (g.attemptFailed port number e).Paced := by
  refine attemptFailed_cases ?_ ?_
  · exact {
      listening := .of_control hlistening.known Control.noConfusion
      agrees := .inr ⟨Nat.succ_lt_succ hnumber, hphase⟩
      counted := hcounted
      running := fun _ => hrunning
      valid := fun _ => Control.noConfusion }
  · refine fail_cases (fun _ => finish hcounted fun t ht => ?_) fun hidle => ?_
    · exact he t (Except.error.inj ht)
    · cases hrunning.symm.trans hidle

theorem attemptAgain (hlistening : g.Listening)
    (hcounted : Counted g.board.coordinator g.board.answers)
    (hphase : g.board.coordinator.phase = .rebinding) (hrunning : g.running = true)
    (hnumber : 0 < number) : (g.attemptAgain port number).Paced := by
  unfold Gateway.attemptAgain attempt
  cases hbeat : g.board.heartbeat.validate with
  | error e =>
      exact attemptFailed hlistening hcounted hphase hrunning hnumber fun _ => GatewayError.noConfusion
  | ok _ =>
      exact {
        listening := .of_control (fun _ h => by cases h) Control.noConfusion
        agrees := ⟨hnumber, hphase⟩
        counted := hcounted
        running := fun _ => hrunning
        valid := fun _ => Control.noConfusion }

theorem bindingDone {a : Attempt} {r : Except GatewayError Net.SocketAddress} (h : g.Paced)
    (hcontrol : g.control = .binding port a) (hr : ∀ t, r ≠ .error (.invalidTransition t)) :
    (g.bindingDone port a r).Paced := by
  have hagrees := h.agrees
  have hrunning := h.running
  rw [hcontrol] at hagrees hrunning
  cases a with
  | start =>
      have hlistening : (g.bindingDone port .start r).Listening := h.listening.bindingDone
      cases r with
      | ok address => exact ⟨hlistening, hagrees, h.counted, (by cases ·), fun _ => Control.noConfusion⟩
      | error e => exact ⟨hlistening, hagrees, h.counted, (by cases ·), fun _ => Control.noConfusion⟩
  | rebind number =>
      obtain ⟨hnumber, hphase⟩ := hagrees
      have hrun : g.running = true := hrunning rfl
      cases r with
      | error e =>
          exact attemptFailed h.listening h.counted hphase hrun hnumber fun t ht => hr t (ht ▸ rfl)
      | ok address =>
          have hne : g.board.coordinator.phase ≠ .idle := by simp [hphase]
          unfold Gateway.bindingDone
          refine moveOn_of_phase (P := Paced) hphase rfl ?_
          rw [if_pos (show (g.hold address).running = true from hrun)]
          exact {
            listening := .of_control (fun _ h => h) Control.noConfusion
            agrees := .inl rfl
            counted := h.counted.enter hne
            running := fun _ => hrun
            valid := fun _ => Control.noConfusion }

theorem turn (h : g.Paced) (hturn : Turn g m g') (hm : m.leavesRestarts = true) : g'.Paced := by
  have hlistening : g'.Listening := h.listening.turn hturn
  have hagrees := h.agrees
  have hrunning := h.running
  cases hturn with
  | unfit control | start control | stop control =>
      rw [control] at hagrees
      exact ⟨hlistening, hagrees, h.counted, (by cases ·), fun _ => Control.noConfusion⟩
  | rebind => cases hm
  | run control =>
      rw [control] at hagrees
      exact ⟨hlistening, hagrees, h.counted, fun _ => rfl, fun _ => Control.noConfusion⟩
  | bound control =>
      refine h.bindingDone control ?_
      rintro t rfl
      cases hm
  | round control =>
      rw [control] at hagrees hrunning
      refine beginRound_cases (fun a ha => ?_) fun _ => finish h.counted fun _ ht => by cases ht
      exact ⟨⟨h.listening.known, fun _ => ⟨a, ha⟩⟩, hagrees, h.counted, fun _ => hrunning rfl,
        fun _ => Control.noConfusion⟩
  | @close p control | @graceOver p control | @drain p control | @sweep p control _ =>
      rw [control] at hagrees hrunning
      cases p with
      | stop | shutdown =>
          exact ⟨hlistening, hagrees, h.counted, (by cases ·), fun _ => Control.noConfusion⟩
      | rebind port =>
          exact ⟨hlistening, hagrees, h.counted, fun _ => hrunning rfl,
            fun _ => Control.noConfusion⟩
  | @stopped p control =>
      rw [control] at hagrees hrunning
      cases p with
      | stop => exact ⟨hlistening, hagrees, h.counted, (by cases ·), fun _ => Control.noConfusion⟩
      | shutdown =>
          refine ⟨hlistening, trivial, h.counted, (by cases ·), fun t ht => ?_⟩
          cases Control.finished.inj ht
      | rebind port =>
          have hphase : g.board.coordinator.phase = .draining := hagrees
          unfold afterStop
          refine moveOn_of_phase (P := Paced) hphase rfl ?_
          exact {
            listening := .of_control h.listening.known Control.noConfusion
            agrees := .inl ⟨rfl, rfl⟩
            counted := h.counted.enter (by simp [hphase])
            running := fun _ => hrunning rfl
            valid := fun _ => Control.noConfusion }
  | firstAttempt control =>
      rw [control] at hagrees hrunning
      have hphase : g.board.coordinator.phase = .waiting := by
        rcases hagrees with ⟨-, hphase⟩ | ⟨hlt, -⟩
        · exact hphase
        · exact absurd hlt (Nat.lt_irrefl 1)
      refine moveOn_of_phase (P := Paced) hphase rfl (attemptAgain ?_ ?_ rfl (hrunning rfl) Nat.one_pos)
      · exact ⟨h.listening.known, h.listening.held⟩
      · exact h.counted.enter (by simp [hphase])
  | nextAttempt control next =>
      rw [control] at hagrees hrunning
      rcases hagrees with ⟨hone, -⟩ | ⟨hlt, hphase⟩
      · exact absurd hone next
      · exact attemptAgain h.listening h.counted hphase (hrunning rfl) (Nat.zero_lt_of_lt hlt)
  | noticeRestart control phase =>
      rw [control] at hrunning
      -- the restart has been asked for, so that to ask for it again changes nothing
      refine beginRebind_cases (fun _ => ?_) fun _ hne => absurd phase hne
      have hpaced := h.deed Switchboard.Asked.request
      refine ⟨.of_control h.listening.known Control.noConfusion, ?_, hpaced.counted,
        fun _ => hrunning rfl, fun _ => Control.noConfusion⟩
      exact (Switchboard.Asked.request.phase_eq (by simp [phase])).trans phase
  | nowhere control address =>
      -- who accepts streams has a listener, and knows where
      obtain ⟨a, ha⟩ := h.listening.exists_address control
      cases address.symm.trans ha
  | shutdown control =>
      rw [control] at hagrees
      exact ⟨hlistening, hagrees, h.counted, (by cases ·), fun _ => Control.noConfusion⟩

/-- The deed of a move that leaves restarts to the run only asks for some. -/
theorem asked_of_deed {d : Deed} {b : Switchboard} (hm : m.leavesRestarts = true)
    (hd : m.deed? = some d) (hb : g.board.perform d = some b) : g.board.Asked b := by
  refine .perform hb ?_
  rintro source target rfl
  rw [Move.eq_transition hd] at hm
  cases hm

theorem step (h : g.Paced) (hm : m.leavesRestarts = true) (hstep : g.step m = some g') :
    g'.Paced := by
  rcases step_cases hstep with ⟨d, b, hd, hb, rfl, -⟩ | ⟨-, hturn⟩
  · exact h.deed (asked_of_deed hm hd hb)
  · exact h.turn hturn hm

theorem of_steps (hms : ∀ m ∈ ms, m.leavesRestarts = true) (hrun : g.steps ms = some g')
    (h : g.Paced) : g'.Paced :=
  steps_induction hrun hms (fun _ _ _ hm hg hstep => hg.step hm hstep) h

end Paced

/-! ## A granted request waits -/

structure Pending (g : Gateway) : Prop where
  phase : g.board.coordinator.phase = .draining
  waiting : g.control.isRestarting = false

theorem Turn.pending (h : Turn g m g') (hm : m.isRebind = false) (hg : g.Pending) : g'.Pending := by
  have hwaiting := hg.waiting
  cases h with
  | unfit | start | stop | run | shutdown => exact ⟨hg.phase, rfl⟩
  | rebind | noticeRestart | nowhere => cases hm
  | @bound port a r control =>
      rw [control] at hwaiting
      cases a with
      | rebind number => cases hwaiting
      | start => cases r <;> exact ⟨hg.phase, rfl⟩
  | round =>
      refine beginRound_cases (fun _ _ => ⟨hg.phase, rfl⟩) fun _ => ⟨?_, rfl⟩
      exact (Switchboard.Asked.abortAll.phase_eq (by simp [hg.phase])).trans hg.phase
  | close control | drain control | graceOver control | sweep control =>
      rw [control] at hwaiting
      exact ⟨hg.phase, Control.isRestarting_stopping.trans hwaiting⟩
  | @stopped p control =>
      rw [control] at hwaiting
      cases p with
      | rebind port => cases hwaiting
      | stop | shutdown => exact ⟨hg.phase, rfl⟩
  | firstAttempt control | nextAttempt control =>
      rw [control] at hwaiting
      cases hwaiting

theorem Pending.step (h : g.Pending) (hm : m.leavesRestarts = true) (hnotice : m ≠ .noticeRestart)
    (hstep : g.step m = some g') : g'.Pending := by
  rcases step_cases hstep with ⟨d, b, hd, hb, rfl, -⟩ | ⟨-, hturn⟩
  · have hasked : g.board.Asked b := Paced.asked_of_deed hm hd hb
    exact ⟨(hasked.phase_eq (by simp [h.phase])).trans h.phase, h.waiting⟩
  · refine hturn.pending ?_ h
    cases m <;> first | rfl | contradiction

/-- The supervisor asks for a restart only when it is to rebind. -/
theorem Turn.answers_eq (h : Turn g m g') (hm : m.isRebind = false) :
    g'.board.answers = g.board.answers := by
  have hbrought : g.board.Brought (fun d => d.isOfSupervisor = true ∧ d ≠ .request) g'.board := by
    refine h.brought (fun _ hd hne => ⟨hd, hne⟩) fun hrebind => ?_
    rw [hm] at hrebind
    cases hrebind
  refine hbrought.keeps (P := fun b => b.answers = g.board.answers) ?_ rfl
  rintro d b b' ⟨hd, hne⟩ hb hdeed
  cases d with
  | request => exact absurd rfl hne
  | transition | drain =>
      cases hdeed
      exact hb
  | cutOff i o =>
      obtain ⟨st, -, -, ⟨c, -, rfl⟩ | ⟨-, rfl⟩⟩ := Switchboard.cutOff_cases hdeed
      · exact hb
      · exact hb
  | _ => cases hd

/-- **A granted request leaves a restart pending**, whoever made it and wherever the supervisor
was. -/
theorem Paced.pending_of_granted (h : g.Paced) (hm : m.leavesRestarts = true)
    (hstep : g.step m = some g')
    (hcount : g.board.answers.count true < g'.board.answers.count true) : g'.Pending := by
  rcases step_cases hstep with ⟨d, b, hd, hb, rfl, -⟩ | ⟨-, hturn⟩
  · obtain ⟨hidle, hdraining⟩ := (asked_of_deed hm hd hb).granted hcount
    refine ⟨hdraining, ?_⟩
    cases hrestarting : g.control.isRestarting with
    | false => rfl
    | true => exact absurd hidle (Control.ne_idle_of_agrees h.agrees hrestarting)
  · exfalso
    cases hrebind : m.isRebind with
    | false =>
        rw [hturn.answers_eq hrebind] at hcount
        exact Nat.lt_irrefl _ hcount
    | true =>
        -- the supervisor rebinds for a request that was granted before
        cases hturn with
        | noticeRestart control phase =>
            revert hcount
            refine beginRebind_cases (P := fun g' => _ < g'.board.answers.count true → False)
              (fun _ hcount => ?_) fun _ hne => absurd phase hne
            cases phase.symm.trans (Switchboard.Asked.request.granted hcount).1
        | nowhere control address =>
            obtain ⟨a, ha⟩ := h.listening.exists_address control
            cases address.symm.trans ha
        | rebind => cases hm
        | _ => cases hrebind

/-! ## The main result -/

/-- **No restart is lost, doubled or out of step** in any run in which restarts are left to the run
of the supervisor, whoever asks for them and whenever.

* While the supervisor accepts streams there is no restart, or one that waits to be noticed; while it
  stops for one, waits before the first attempt to bind, and binds, the phase is the one of that.
* So the coordinator moves on all three times, and no run ends for its being out of step.
* Every granted request is one restart, done or under way.
* A granted request stays pending until the supervisor notices it.
* The supervisor can notice it whenever it accepts streams, and then begins to rebind. -/
theorem restarts_keep_step {router : Router HandlerSet} {beat : Config.Heartbeat}
    {limit attempts : Nat} (hrun : (fresh (.fresh router beat limit) attempts).steps ms = some g)
    (hms : ∀ m ∈ ms, m.leavesRestarts = true) :
    (g.control = .accepting →
      g.board.coordinator.phase = .idle ∨ g.board.coordinator.phase = .draining) ∧
    (∀ port stage, g.control = .stopping (.rebind port) stage →
      g.board.coordinator.phase = .draining ∧ (g.board.transition .draining .waiting).1 = .ok ()) ∧
    (∀ port, g.control = .delaying port 1 →
      g.board.coordinator.phase = .waiting ∧ (g.board.transition .waiting .rebinding).1 = .ok ()) ∧
    (∀ port number, g.control = .delaying port number ∧ number ≠ 1 ∨
        g.control = .binding port (.rebind number) →
      g.board.coordinator.phase = .rebinding ∧ (g.board.transition .rebinding .idle).1 = .ok ()) ∧
    (∀ t, g.control ≠ .finished (.error (.invalidTransition t))) ∧
    UInt64.ofNat (g.board.answers.count true) =
      g.board.coordinator.completed + (if g.board.coordinator.phase = .idle then 0 else 1) ∧
    (g.board.answers.count true < UInt64.size → g.board.answers.count true =
      g.board.coordinator.completed.toNat +
        if g.board.coordinator.phase = .idle then 0 else 1) ∧
    (∀ m g₁ ms' g₂, m.leavesRestarts = true → g.step m = some g₁ →
      g.board.answers.count true < g₁.board.answers.count true →
      (∀ m ∈ ms', m.leavesRestarts = true ∧ m ≠ .noticeRestart) → g₁.steps ms' = some g₂ →
      g₂.board.coordinator.phase = .draining) ∧
    (g.control = .accepting → g.board.coordinator.phase = .draining →
      ∃ a g', g.address = some a ∧ g.step .noticeRestart = some g' ∧
        g'.control = .stopping (.rebind a.port) .closing ∧
        g'.board.coordinator.phase = .draining) := by
  have hpaced : g.Paced := Paced.of_steps hms hrun .fresh
  have hagrees := hpaced.agrees
  refine ⟨fun hcontrol => ?_, fun port stage hcontrol => ?_, fun port hcontrol => ?_,
    fun port number hcontrol => ?_, hpaced.valid, hpaced.counted.toUInt64, hpaced.counted.toNat,
    fun m g₁ ms' g₂ hm hstep hcount hms' hsteps => ?_, fun hcontrol hphase => ?_⟩
  · rw [hcontrol] at hagrees
    exact hagrees
  · rw [hcontrol] at hagrees
    exact ⟨hagrees, Switchboard.transition_ok hagrees rfl⟩
  · rw [hcontrol] at hagrees
    rcases hagrees with ⟨-, hphase⟩ | ⟨hlt, -⟩
    · exact ⟨hphase, Switchboard.transition_ok hphase rfl⟩
    · exact absurd hlt (Nat.lt_irrefl 1)
  · have hphase : g.board.coordinator.phase = .rebinding := by
      rcases hcontrol with ⟨hcontrol, hne⟩ | hcontrol
      · rw [hcontrol] at hagrees
        rcases hagrees with ⟨hone, -⟩ | ⟨-, hphase⟩
        · exact absurd hone hne
        · exact hphase
      · rw [hcontrol] at hagrees
        exact hagrees.2
    exact ⟨hphase, Switchboard.transition_ok hphase rfl⟩
  · have hpending : g₁.Pending := hpaced.pending_of_granted hm hstep hcount
    refine (steps_induction hsteps hms' (fun g m g' hm hg hstep => ?_) hpending).phase
    exact hg.step hm.1 hm.2 hstep
  · obtain ⟨a, ha⟩ := hpaced.listening.exists_address hcontrol
    refine ⟨a, g.beginRebind a.port, ha, by simp [Gateway.step, hcontrol, hphase, ha], ?_⟩
    refine beginRebind_cases (P := fun g' => g'.control = _ ∧ g'.board.coordinator.phase = _)
      (fun _ => ⟨rfl, ?_⟩) fun _ hne => absurd hphase hne
    exact (Switchboard.Asked.request.phase_eq (by simp [hphase])).trans hphase

/-- A restart, and a request that comes before the next round of the run. -/
def restartingTwice : List Move :=
  opening ++ draining ++ [.graceOver, .abort 0, .proceed, .proceed, .delayOver,
    .bound (.ok smallAddress), .request, .proceed]

/-- The second request is not lost. -/
theorem restarts_keep_step_twice :
    ∃ g, small.steps restartingTwice = some g ∧ (∀ m ∈ restartingTwice, m.leavesRestarts = true) ∧
      g.control = .accepting ∧ g.board.coordinator.phase = .draining ∧
      g.board.coordinator.completed = 1 ∧ g.board.answers.count true = 2 ∧
      ∃ a g', g.address = some a ∧ g.step .noticeRestart = some g' ∧
        g'.control = .stopping (.rebind a.port) .closing := by
  have hms : ∀ m ∈ restartingTwice, m.leavesRestarts = true := List.all_eq_true.mp rfl
  have hmain : ∃ g, small.steps restartingTwice = some g ∧ g.control = .accepting ∧
      g.board.coordinator.phase = .draining ∧ g.board.coordinator.completed = 1 ∧
      decide (g.board.answers.count true < UInt64.size) = true := by
    refine ⟨_, rfl, ?_⟩
    exact ⟨rfl, rfl, rfl, rfl⟩
  obtain ⟨g, hrun, hcontrol, hphase, hcompleted, hsize⟩ := hmain
  obtain ⟨-, -, -, -, -, -, hcount, -, hnotice⟩ := restarts_keep_step hrun hms
  obtain ⟨a, g', ha, hstep, hcontrol', -⟩ := hnotice hcontrol hphase
  refine ⟨g, hrun, hms, hcontrol, hphase, hcompleted, ?_, a, g', ha, hstep, hcontrol'⟩
  rw [hcount (of_decide_eq_true hsize), hcompleted, hphase]
  rfl

end Gateway

end SocketGateway
