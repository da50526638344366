import SocketGateway.Proofs.Course

/-!
# Errands of a supervisor

Outside a run a supervisor is called for one errand after the other: to start, to stop, to rebind.
Its ledger holds the errand under way and what came of those before, as far as whoever called it can
tell. Everything that a supervisor remembers between two errands can be read off the ledger: the
address of its last listener, the restarts completed, and whether the coordinator is stuck. It is
stuck as soon as a rebind has given up, since only a rebind that has got past its guard leads out of
the phase in which that leaves it.
-/

namespace SocketGateway

open SocketGateway.Net (SocketAddress)
open SocketGateway.Restart (Coordinator Phase)

/-! ## The ledger -/

/-- What a supervisor can be called for outside a run. -/
inductive Errand where
  | start (port : UInt16)
  | stop
  | rebind (port : UInt16)
deriving DecidableEq, Repr

structure Return where
  errand : Errand
  attempts : Nat
  answer : Answer

/-- The errand under way, with the attempts of a rebind so far, and the errands done, latest
first. -/
structure Ledger where
  current : Option (Errand × Nat)
  returns : List Return

def Move.errand? : Move → Option Errand
  | .start port => some (.start port)
  | .stop => some .stop
  | .rebind port => some (.rebind port)
  | _ => none

def Move.attempts : Move → Nat
  | .delayOver => 1
  | _ => 0

def Move.bound? : Move → Option SocketAddress
  | .bound (.ok a) => some a
  | _ => none

def lastBound? (ms : List Move) : Option SocketAddress := (ms.filterMap Move.bound?).getLast?

/-- Whether a move may come outside a run if only the supervisor moves the coordinator on. -/
def Move.isOutsideRun : Move → Bool
  | .run | .transition .. => false
  | _ => true

namespace Return

def isRestart : Return → Bool
  | ⟨.rebind _, _, .ok _⟩ => true
  | _ => false

/-- A rebind that gave up: all of its `n` attempts to bind have failed. -/
def gaveUp (n : Nat) : Return → Bool
  | ⟨.rebind _, k, .error _⟩ => k = n
  | _ => false

def address? (r : Return) : Option SocketAddress :=
  match r.answer with
  | .ok a => a
  | .error _ => none

end Return

namespace Ledger

def empty : Ledger := ⟨none, []⟩

def underWay (l : Ledger) (m : Move) : Option (Errand × Nat) :=
  match m.errand? with
  | some e => some (e, 0)
  | none => l.current.map fun c => (c.1, c.2 + m.attempts)

/-- The ledger after a move that leads to a gateway: its errand is done if the supervisor is ready
for another one. -/
def after (l : Ledger) (m : Move) (g : Gateway) : Ledger :=
  match g.control, l.underWay m, g.answer with
  | .ready, some (e, k), some a => ⟨none, ⟨e, k, a⟩ :: l.returns⟩
  | _, current, _ => ⟨current, l.returns⟩

def address? (l : Ledger) : Option SocketAddress := l.returns.findSome? Return.address?

def restarts (l : Ledger) : Nat := l.returns.countP Return.isRestart

def isStuck (n : Nat) (l : Ledger) : Bool := l.returns.any (Return.gaveUp n)

end Ledger

def Gateway.ledger (g : Gateway) (l : Ledger) : List Move → Ledger
  | [] => l
  | m :: ms =>
    match g.step m with
    | some g' => g'.ledger (l.after m g') ms
    | none => l

namespace Ledger

variable {l : Ledger} {m : Move} {g g' : Gateway} {ms : List Move} {e : Errand} {k n : Nat}
  {ans : Answer} {r : Return}

theorem underWay_of_plain (herrand : m.errand? = none) (hattempts : m.attempts = 0) :
    l.underWay m = l.current := by
  unfold underWay
  rw [herrand, hattempts]
  cases l.current <;> rfl

theorem after_of_busy (h : g.control ≠ .ready) : l.after m g = ⟨l.underWay m, l.returns⟩ := by
  unfold after
  split
  · rename_i hready _ _
    exact absurd hready h
  · rfl

/-- An errand is done. -/
theorem after_giveBack (h : l.underWay m = some (e, k)) :
    l.after m (g.giveBack ans) = ⟨none, ⟨e, k, ans⟩ :: l.returns⟩ := by
  simp [after, Gateway.giveBack, h]

/-- Nothing changes when nothing has happened to the supervisor. -/
theorem after_of_plain (herrand : m.errand? = none) (hattempts : m.attempts = 0)
    (hready : g.control = .ready → l.current = none) : l.after m g = l := by
  have hunder : l.underWay m = l.current := underWay_of_plain herrand hattempts
  by_cases h : g.control = .ready
  · have hcurrent := hready h
    unfold after
    rw [hunder, hcurrent, h]
    cases l
    cases hcurrent
    rfl
  · rw [after_of_busy h, hunder]

theorem isStuck_cons : isStuck n ⟨none, r :: l.returns⟩ = (r.gaveUp n || l.isStuck n) := rfl

theorem isStuck_iff : l.isStuck n = true ↔ ∃ r ∈ l.returns, r.gaveUp n = true := List.any_eq_true

/-- No entry is struck out. -/
theorem returns_suffix_after : l.returns <:+ (l.after m g).returns := by
  unfold after
  split
  · exact List.suffix_cons _ _
  · exact List.suffix_refl _

end Ledger

/-! ## What is due -/

def Ledger.settles (n : Nat) (l : Ledger) (p : Phase) : Prop :=
  if l.isStuck n then p = .rebinding else p = .idle ∨ p = .draining

/-- **What the ledger and the phase say while a supervisor does something**, outside a run. In a
rebind the phase is the one of that, no rebind has given up before, and the attempts are those that
the supervisor has counted, of which there are at most `n`. -/
def Control.isBooked (n : Nat) (l : Ledger) (p : Phase) : Control → Prop
  | .ready => l.current = none ∧ l.settles n p
  | .stopping .stop _ => l.current = some (.stop, 0) ∧ l.settles n p
  | .binding port .start => l.current = some (.start port, 0) ∧ l.settles n p
  | .stopping (.rebind port) _ =>
    l.current = some (.rebind port, 0) ∧ l.isStuck n = false ∧ p = .draining
  | .delaying port k => ∃ done, k = done + 1 ∧ done < n ∧ l.current = some (.rebind port, done) ∧
    l.isStuck n = false ∧ p = if done = 0 then .waiting else .rebinding
  | .binding port (.rebind k) => 0 < k ∧ k ≤ n ∧ l.current = some (.rebind port, k) ∧
    l.isStuck n = false ∧ p = .rebinding
  | .stopping .shutdown _ | .looping | .accepting | .finished _ => False

section

variable {n : Nat} {l : Ledger} {p : Phase} {c : Control} {r : Return}

theorem Ledger.settles_draining (h : l.settles n .idle) : l.settles n .draining := by
  unfold settles at h ⊢
  split at h
  · cases h
  · rw [if_neg ‹_›]
    exact .inr rfl

theorem Ledger.settles_ne_waiting (h : l.settles n p) : p ≠ .waiting := by
  rintro rfl
  unfold settles at h
  split at h
  · cases h
  · rcases h with h | h <;> cases h

/-- The phase tells whether a rebind has given up. -/
theorem Ledger.settles_rebinding_iff (h : l.settles n p) :
    p = .rebinding ↔ l.isStuck n = true := by
  unfold settles at h
  split at h
  · exact ⟨fun _ => ‹_›, fun _ => h⟩
  · constructor
    · rintro rfl
      rcases h with h | h <;> cases h
    · intro hstuck
      exact absurd hstuck ‹_›

/-- Unless a rebind has given up now, another entry changes nothing. -/
theorem Ledger.settles_cons (h : l.settles n p) (hr : r.gaveUp n = false) :
    Ledger.settles n ⟨none, r :: l.returns⟩ p := by
  unfold settles at h ⊢
  rwa [isStuck_cons, hr, Bool.false_or]

/-- A request may come at any time. -/
theorem Control.isBooked_draining (h : c.isBooked n l .idle) : c.isBooked n l .draining := by
  unfold isBooked at h ⊢
  split at h
  · exact ⟨h.1, Ledger.settles_draining h.2⟩
  · exact ⟨h.1, Ledger.settles_draining h.2⟩
  · exact ⟨h.1, Ledger.settles_draining h.2⟩
  · cases h.2.2
  · obtain ⟨done, -, -, -, -, hp⟩ := h
    split at hp <;> cases hp
  · cases h.2.2.2.2
  all_goals exact h

/-- Who is ready has nothing under way. -/
theorem Control.current_of_ready (h : c.isBooked n l p) (hc : c = .ready) : l.current = none := by
  subst hc
  exact h.1

/-- The stages of a stop make no difference. -/
theorem Control.isBooked_stage {purpose : StopPurpose} {s s' : StopStage}
    (h : (Control.stopping purpose s).isBooked n l p) :
    (Control.stopping purpose s').isBooked n l p := by
  cases purpose <;> exact h

/-- Once a rebind has given up the coordinator stays where it is. -/
theorem Control.phase_of_isStuck (h : c.isBooked n l p) (hstuck : l.isStuck n = true) :
    p = .rebinding := by
  unfold isBooked at h
  split at h
  · exact (Ledger.settles_rebinding_iff h.2).mpr hstuck
  · exact (Ledger.settles_rebinding_iff h.2).mpr hstuck
  · exact (Ledger.settles_rebinding_iff h.2).mpr hstuck
  · exact absurd hstuck (by simp [h.2.1])
  · obtain ⟨done, -, -, -, hnot, -⟩ := h
    exact absurd hstuck (by simp [hnot])
  · exact absurd hstuck (by simp [h.2.2.2.1])
  all_goals cases h

end

namespace Gateway

variable {g g' : Gateway} {m : Move} {ms ms' : List Move} {l : Ledger} {a : Option SocketAddress}
  {e : Errand} {k : Nat} {ans : Answer} {port : UInt16} {err : GatewayError}

/-- **The totals of a ledger are true**: the address of the last listener, which is `a`, and the
number of restarts completed. -/
structure Tallied (g : Gateway) (l : Ledger) (a : Option SocketAddress) : Prop where
  outside : g.running = false
  address : g.address = a
  given : l.address? = a
  completed : g.board.coordinator.completed = UInt64.ofNat l.restarts

/-- **The ledger is true**: so are its totals, and it agrees with what the supervisor does. -/
structure Booked (g : Gateway) (l : Ledger) (a : Option SocketAddress) : Prop
    extends g.Tallied l a where
  due : g.control.isBooked (max 1 g.attempts) l g.board.coordinator.phase

/-! ### How an errand goes on, and how it ends -/

namespace Tallied

/-- The supervisor goes on with an errand. -/
theorem goOn (h : g.Tallied l a) (hunder : l.underWay m = some (e, k))
    (houtside : g'.running = false) (haddress : g'.address = g.address)
    (hbusy : g'.control ≠ .ready)
    (hcompleted : g'.board.coordinator.completed = g.board.coordinator.completed)
    (hdue : g'.control.isBooked (max 1 g'.attempts) ⟨some (e, k), l.returns⟩
      g'.board.coordinator.phase) : g'.Booked (l.after m g') a := by
  rw [Ledger.after_of_busy hbusy, hunder]
  exact ⟨⟨houtside, haddress.trans h.address, h.given, hcompleted.trans h.completed⟩, hdue⟩

/-- An errand ends without a new listener. -/
theorem giveBack (h : g.Tallied l a) (hunder : l.underWay m = some (e, k))
    (hans : ans = .ok none ∧ e = .stop ∨ ∃ err, ans = .error err)
    (hdue : Ledger.settles (max 1 g.attempts) ⟨none, ⟨e, k, ans⟩ :: l.returns⟩
      g.board.coordinator.phase) : (g.giveBack ans).Booked (l.after m (g.giveBack ans)) a := by
  rw [Ledger.after_giveBack hunder]
  have hnone : (Return.mk e k ans).address? = none ∧ (Return.mk e k ans).isRestart = false := by
    rcases hans with ⟨rfl, rfl⟩ | ⟨err, rfl⟩
    · exact ⟨rfl, rfl⟩
    · exact ⟨rfl, by cases e <;> rfl⟩
  refine ⟨⟨h.outside, h.address, ?_, ?_⟩, ⟨rfl, hdue⟩⟩
  · rw [Ledger.address?, List.findSome?_cons, hnone.1]
    exact h.given
  · rw [Ledger.restarts, List.countP_cons_of_neg (by simp [hnone.2])]
    exact h.completed

/-- An attempt of a rebind fails: the next one will follow, or the rebind gives up. -/
theorem attemptFailed (h : g.Tallied l a) (hunder : l.underWay m = some (.rebind port, k))
    (hk : 0 < k) (hle : k ≤ max 1 g.attempts) (hfree : l.isStuck (max 1 g.attempts) = false)
    (hphase : g.board.coordinator.phase = .rebinding) :
    (g.attemptFailed port k err).Booked (l.after m (g.attemptFailed port k err)) a := by
  unfold Gateway.attemptFailed
  split
  · rename_i hlt
    refine h.goOn hunder h.outside rfl Control.noConfusion rfl ?_
    exact ⟨k, rfl, hlt, rfl, hfree, by rw [if_neg (Nat.ne_of_gt hk)]; exact hphase⟩
  · rename_i hlast
    have hall : k = max 1 g.attempts := Nat.le_antisymm hle (Nat.le_of_not_lt hlast)
    unfold fail
    rw [if_neg (by simp [h.outside])]
    refine h.giveBack hunder (.inr ⟨_, rfl⟩) ?_
    unfold Ledger.settles
    rw [Ledger.isStuck_cons, if_pos (by simp [Return.gaveUp, hall])]
    exact hphase

theorem attemptAgain (h : g.Tallied l a) (hunder : l.underWay m = some (.rebind port, k))
    (hk : 0 < k) (hle : k ≤ max 1 g.attempts) (hfree : l.isStuck (max 1 g.attempts) = false)
    (hphase : g.board.coordinator.phase = .rebinding) :
    (g.attemptAgain port k).Booked (l.after m (g.attemptAgain port k)) a := by
  refine attemptAgain_cases (P := fun g' => g'.Booked (l.after m g') a) (fun _ => ?_) fun e => ?_
  · exact h.goOn hunder h.outside rfl Control.noConfusion rfl ⟨hk, hle, rfl, hfree, hphase⟩
  · exact h.attemptFailed hunder hk hle hfree hphase

end Tallied

/-! ### Moves -/

namespace Booked

theorem due_of {c : Control} (h : g.Booked l a) (hcontrol : g.control = c) :
    c.isBooked (max 1 g.attempts) l g.board.coordinator.phase := hcontrol ▸ h.due

theorem fresh {router : Router HandlerSet} {beat : Config.Heartbeat} {limit attempts : Nat} :
    (Gateway.fresh (.fresh router beat limit) attempts).Booked .empty none where
  outside := rfl
  address := rfl
  given := rfl
  completed := rfl
  due := ⟨rfl, .inl rfl⟩

/-- Requests change nothing but the phase, and that only from rest. -/
theorem asked {b : Switchboard} (h : g.Booked l a) (hasked : g.board.Asked b) :
    Booked { g with board := b } l a := by
  have hkept : b.coordinator.completed = UInt64.ofNat l.restarts ∧
      g.control.isBooked (max 1 g.attempts) l b.coordinator.phase := by
    refine hasked.keeps (P := fun c _ => c.completed = UInt64.ofNat l.restarts ∧
      g.control.isBooked (max 1 g.attempts) l c.phase) ?_ ⟨h.completed, h.due⟩
    rintro c as ⟨hcompleted, hdue⟩
    unfold Coordinator.request
    split
    · rename_i hidle
      rw [hidle] at hdue
      exact ⟨hcompleted, Control.isBooked_draining hdue⟩
    · exact ⟨hcompleted, hdue⟩
  exact ⟨⟨h.outside, h.address, h.given, hkept.1⟩, hkept.2⟩

/-- A rebind is refused only if another one has given up. -/
theorem beginRebind (h : g.Booked l a) (hcontrol : g.control = .ready) :
    (g.beginRebind port).Booked (l.after (.rebind port) (g.beginRebind port)) a := by
  have hasked : Booked { g with board := g.board.request.2 } l a := h.asked .request
  obtain ⟨-, hsettles⟩ := h.due_of hcontrol
  refine beginRebind_cases (P := fun g' => g'.Booked (l.after (.rebind port) g') a)
    (fun hphase => ?_) fun _ _ e => ?_
  · have hfree : l.isStuck (max 1 g.attempts) = false := by
      rw [Bool.eq_false_iff]
      intro hstuck
      have hrebinding := (Ledger.settles_rebinding_iff hsettles).mpr hstuck
      rcases hphase with hphase | hphase <;> cases hphase.symm.trans hrebinding
    have hbegun : g.board.request.2.coordinator.phase = .draining := by
      rcases hphase with hphase | hphase <;>
        simp [Switchboard.request, Coordinator.request, Coordinator.enter, hphase]
    exact hasked.goOn rfl h.outside rfl Control.noConfusion rfl ⟨rfl, hfree, hbegun⟩
  · unfold fail
    rw [if_neg (by simp [h.outside])]
    refine hasked.giveBack (e := .rebind port) (k := 0) rfl (.inr ⟨_, rfl⟩) ?_
    -- it is none of those that gave up, having made no attempt
    have hnone : (Return.mk (.rebind port) 0 (.error (.invalidTransition e))).gaveUp
        (max 1 g.attempts) = false := by
      have hpos : 1 ≤ max 1 g.attempts := Nat.le_max_left 1 _
      exact decide_eq_false (by omega)
    exact Ledger.settles_cons (hasked.due_of hcontrol).2 hnone

/-- An attempt to bind is over: it gives a listener, or it fails. -/
theorem bindingDone {attempt : Attempt} {r : Except GatewayError SocketAddress} (h : g.Booked l a)
    (hcontrol : g.control = .binding port attempt) :
    (g.bindingDone port attempt r).Booked (l.after (.bound r) (g.bindingDone port attempt r))
      ((Move.bound r).bound?.or a) := by
  have hunder : l.underWay (.bound r) = l.current := Ledger.underWay_of_plain rfl rfl
  have hdue := h.due_of hcontrol
  cases attempt with
  | start =>
      obtain ⟨hcurrent, hsettles⟩ := hdue
      rw [hcurrent] at hunder
      cases r with
      | error e => exact h.giveBack hunder (.inr ⟨e, rfl⟩) (Ledger.settles_cons hsettles rfl)
      | ok address =>
          unfold Gateway.bindingDone
          rw [Ledger.after_giveBack hunder]
          exact ⟨⟨h.outside, rfl, rfl, h.completed⟩, rfl, Ledger.settles_cons hsettles rfl⟩
  | rebind number =>
      obtain ⟨hk, hle, hcurrent, hfree, hphase⟩ := hdue
      rw [hcurrent] at hunder
      cases r with
      | error e => exact h.attemptFailed hunder hk hle hfree hphase
      | ok address =>
          unfold Gateway.bindingDone
          refine moveOn_of_phase (P := fun g' => g'.Booked (l.after _ g') _) hphase rfl ?_
          rw [if_neg (show ¬(g.hold address).running = true by simp [hold, h.outside]),
            Ledger.after_giveBack hunder]
          refine ⟨⟨h.outside, rfl, rfl, ?_⟩, rfl, ?_⟩
          · show g.board.coordinator.completed + 1 = _
            rw [h.completed, Ledger.restarts, Ledger.restarts, List.countP_cons_of_pos rfl,
              UInt64.ofNat_add]
            rfl
          · have hidle : l.settles (max 1 g.attempts) .idle := by
              unfold Ledger.settles
              rw [hfree]
              exact .inl rfl
            exact Ledger.settles_cons hidle rfl

theorem turn (h : g.Booked l a) (hturn : Turn g m g') (hm : m.isOutsideRun = true) :
    g'.Booked (l.after m g') (m.bound?.or a) := by
  cases hturn with
  | unfit control =>
      obtain ⟨-, hsettles⟩ := h.due_of control
      exact h.giveBack (e := .start _) (k := 0) rfl (.inr ⟨_, rfl⟩)
        (Ledger.settles_cons hsettles rfl)
  | start control =>
      obtain ⟨-, hsettles⟩ := h.due_of control
      exact h.goOn rfl h.outside rfl Control.noConfusion rfl ⟨rfl, hsettles⟩
  | stop control =>
      obtain ⟨-, hsettles⟩ := h.due_of control
      exact h.goOn rfl h.outside rfl Control.noConfusion rfl ⟨rfl, hsettles⟩
  | rebind control => exact h.beginRebind control
  | run => cases hm
  | bound control => exact h.bindingDone control
  | @close p control | @drain p control | @graceOver p control | @sweep p control =>
      have hdue := h.due_of control
      rw [Ledger.after_of_plain rfl rfl fun hready => by cases hready]
      exact ⟨⟨h.outside, h.address, h.given, h.completed⟩, Control.isBooked_stage hdue⟩
  | @stopped p control =>
      have hunder : l.underWay .proceed = l.current := Ledger.underWay_of_plain rfl rfl
      have hdue := h.due_of control
      cases p with
      | shutdown => cases hdue
      | stop =>
          obtain ⟨hcurrent, hsettles⟩ := hdue
          rw [hcurrent] at hunder
          exact h.giveBack hunder (.inl ⟨rfl, rfl⟩) (Ledger.settles_cons hsettles rfl)
      | rebind port =>
          obtain ⟨hcurrent, hfree, hphase⟩ := hdue
          rw [hcurrent] at hunder
          unfold afterStop
          refine moveOn_of_phase (P := fun g' => g'.Booked (l.after _ g') a) hphase rfl ?_
          refine h.goOn hunder h.outside rfl Control.noConfusion rfl ?_
          exact ⟨0, rfl, Nat.le_max_left 1 _, rfl, hfree, rfl⟩
  | @firstAttempt port control =>
      obtain ⟨done, hk, hlt, hcurrent, hfree, hphase⟩ := h.due_of control
      obtain rfl : done = 0 := Nat.succ.inj hk.symm
      have hunder : l.underWay .delayOver = some (.rebind port, 1) := by
        simp [Ledger.underWay, Move.errand?, Move.attempts, hcurrent]
      refine moveOn_of_phase (P := fun g' => g'.Booked (l.after _ g') a) hphase rfl ?_
      -- the first attempt follows the move into the last phase
      have hmoved : Tallied { g with
          board := { g.board with coordinator := g.board.coordinator.enter .rebinding } } l a :=
        ⟨h.outside, h.address, h.given, h.completed⟩
      exact hmoved.attemptAgain hunder Nat.one_pos hlt hfree rfl
  | @nextAttempt port number control next =>
      obtain ⟨done, rfl, hlt, hcurrent, hfree, hphase⟩ := h.due_of control
      have hunder : l.underWay .delayOver = some (.rebind port, done + 1) := by
        simp [Ledger.underWay, Move.errand?, Move.attempts, hcurrent]
      have hdone : done ≠ 0 := fun hzero => next (by rw [hzero])
      rw [if_neg hdone] at hphase
      exact h.attemptAgain hunder (Nat.succ_pos done) hlt hfree hphase
  | round control | noticeRestart control | nowhere control | shutdown control =>
      cases h.due_of control

theorem step (h : g.Booked l a) (hm : m.isOutsideRun = true) (hstep : g.step m = some g') :
    g'.Booked (l.after m g') (m.bound?.or a) := by
  rcases step_cases hstep with ⟨d, b, hd, hb, rfl, -⟩ | ⟨-, hturn⟩
  · -- a deed of somebody else, who may at most ask for a restart
    have hplain : m.errand? = none ∧ m.attempts = 0 ∧ m.bound? = none := by
      cases m <;> first | exact ⟨rfl, rfl, rfl⟩ | cases hd
    have hasked : g.board.Asked b := by
      refine .perform hb ?_
      rintro source target rfl
      rw [Move.eq_transition hd] at hm
      cases hm
    have hbooked := h.asked hasked
    have hcurrent := Control.current_of_ready hbooked.due
    rw [Ledger.after_of_plain hplain.1 hplain.2.1 hcurrent, hplain.2.2]
    exact hbooked
  · exact h.turn hturn hm

theorem of_steps (h : g.Booked l a) (hms : ∀ m ∈ ms, m.isOutsideRun = true)
    (hrun : g.steps ms = some g') : g'.Booked (g.ledger l ms) ((lastBound? ms).or a) := by
  induction ms generalizing g l a with
  | nil =>
      cases hrun
      exact h
  | cons m ms ih =>
      rw [steps_cons, Option.bind_eq_some_iff] at hrun
      obtain ⟨next, hnext, hrun⟩ := hrun
      have hbooked := h.step (hms m List.mem_cons_self) hnext
      have hrest := ih hbooked (fun m' hm' => hms m' (List.mem_cons_of_mem m hm')) hrun
      have hlast : (lastBound? (m :: ms)).or a = (lastBound? ms).or (m.bound?.or a) := by
        unfold lastBound?
        rw [List.filterMap_cons]
        cases m.bound? with
        | none => rfl
        | some b => cases ms.filterMap Move.bound? <;> simp [List.getLast?_cons]
      rw [hlast, ledger, hnext]
      exact hrest

end Booked

/-! ## Stuck for good -/

/-- Nothing is struck out of a ledger. -/
theorem returns_suffix_ledger : l.returns <:+ (g.ledger l ms).returns := by
  induction ms generalizing g l with
  | nil => exact List.suffix_refl _
  | cons m ms ih =>
      unfold ledger
      split
      · exact Ledger.returns_suffix_after.trans ih
      · exact List.suffix_refl _

/-- A supervisor whose coordinator is stuck refuses to rebind, and leaves everything alone. -/
theorem step_rebind_of_stuck (houtside : g.running = false) (hcontrol : g.control = .ready)
    (hphase : g.board.coordinator.phase = .rebinding) : ∃ g', g.step (.rebind port) = some g' ∧
      g'.control = .ready ∧
      g'.answer = some (.error (.invalidTransition ⟨.idle, .draining, .rebinding⟩)) ∧
      g'.listener = g.listener ∧ g'.address = g.address ∧
      g'.board.registry = g.board.registry ∧ g'.board.rooms = g.board.rooms ∧
      g'.board.sessions = g.board.sessions := by
  have hrequest : g.board.request.2.coordinator = g.board.coordinator ∧
      g.board.request.1 = false := by
    simp [Switchboard.request, Coordinator.request, hphase]
  have hbegin : g.beginRebind port = { g with board := g.board.request.2 }.giveBack
      (.error (.invalidTransition ⟨.idle, .draining, .rebinding⟩)) := by
    simp [beginRebind, Switchboard.request, Coordinator.request, hphase, fail, houtside]
  refine ⟨g.beginRebind port, by simp [Gateway.step, hcontrol], ?_⟩
  rw [hbegin]
  exact ⟨rfl, rfl, rfl, rfl, rfl, rfl, rfl⟩

/-! ## The main result -/

/-- **What a supervisor remembers between its errands**, whatever they are, however the attempts to
bind end, and whenever somebody asks for a restart, as long as nobody else moves the coordinator on.

* A listener is held only with a sound heartbeat, and its address is the one that is remembered.
* That is always the address of the last listener, which the last errand with an address gave back.
* As many restarts are completed as rebinds have come to their end.
* Between two errands the coordinator does not wait, and it is in the last phase of a restart
  exactly if a rebind has given up.
* Once one has, the coordinator stays there whatever comes: it grants no request, and every rebind
  is refused and leaves the listener and the registry alone. -/
theorem state_between_errands {router : Router HandlerSet} {beat : Config.Heartbeat}
    {limit attempts : Nat} (hrun : (fresh (.fresh router beat limit) attempts).steps ms = some g)
    (hms : ∀ m ∈ ms, m.isOutsideRun = true)
    (hledger : (fresh (.fresh router beat limit) attempts).ledger .empty ms = l) :
    (∀ a, g.listener = some a → beat.validate = .ok () ∧ g.address = some a) ∧
    g.address = lastBound? ms ∧ g.address = l.address? ∧
    g.board.coordinator.completed = UInt64.ofNat l.restarts ∧
    (l.restarts < UInt64.size → g.board.coordinator.completed.toNat = l.restarts) ∧
    (g.control = .ready → g.board.coordinator.phase ≠ .waiting ∧
      (g.board.coordinator.phase = .rebinding ↔
        ∃ r ∈ l.returns, r.gaveUp (max 1 attempts) = true)) ∧
    ((∃ r ∈ l.returns, r.gaveUp (max 1 attempts) = true) →
      ∀ ms' g', (∀ m ∈ ms', m.isOutsideRun = true) → g.steps ms' = some g' →
        g'.board.coordinator.phase = .rebinding ∧ g'.board.request.1 = false ∧
        (g'.control = .ready → ∀ port, ∃ g'', g'.step (.rebind port) = some g'' ∧
          g''.control = .ready ∧
          g''.answer = some (.error (.invalidTransition ⟨.idle, .draining, .rebinding⟩)) ∧
          g''.listener = g'.listener ∧ g''.address = g'.address ∧
          g''.board.registry = g'.board.registry ∧ g''.board.rooms = g'.board.rooms ∧
          g''.board.sessions = g'.board.sessions)) := by
  have hbooked : g.Booked l (lastBound? ms) := by
    have h := Booked.fresh.of_steps hms hrun
    rwa [hledger, Option.or_none] at h
  have hlistening : g.Listening :=
    steps_induction (K := fun _ => True) hrun (fun _ _ => trivial)
      (fun _ _ _ _ hg hstep => hg.step hstep) .fresh
  have hsound : g.Sound := .of_steps hrun .fresh
  have hbeat : g.board.heartbeat = beat :=
    steps_induction (K := fun _ => True) (P := fun g => g.board.heartbeat = beat) hrun
      (fun _ _ => trivial) (fun _ _ _ _ hg hstep => (heartbeat_step hstep).trans hg) rfl
  have hattempts : g.attempts = attempts := attempts_of_steps hrun
  refine ⟨fun a ha => ⟨hbeat ▸ hsound.held a ha, hlistening.known a ha⟩, hbooked.address,
    hbooked.address.trans hbooked.given.symm, hbooked.completed, fun hsize => ?_,
    fun hcontrol => ?_, fun hstuck ms' g' hms' hrun' => ?_⟩
  · rw [hbooked.completed, UInt64.toNat_ofNat_of_lt' hsize]
  · obtain ⟨-, hsettles⟩ := hbooked.due_of hcontrol
    rw [hattempts] at hsettles
    refine ⟨Ledger.settles_ne_waiting hsettles, ?_⟩
    rw [Ledger.settles_rebinding_iff hsettles, Ledger.isStuck_iff]
  · obtain ⟨r, hr, hgave⟩ := hstuck
    have hbooked' := hbooked.of_steps hms' hrun'
    have hstuck' : (g.ledger l ms').isStuck (max 1 g'.attempts) = true := by
      rw [attempts_of_steps hrun', hattempts]
      exact Ledger.isStuck_iff.mpr ⟨r, returns_suffix_ledger.mem hr, hgave⟩
    have hphase : g'.board.coordinator.phase = .rebinding :=
      Control.phase_of_isStuck hbooked'.due hstuck'
    refine ⟨hphase, ?_, fun hcontrol port =>
      step_rebind_of_stuck hbooked'.outside hcontrol hphase⟩
    simp [Switchboard.request, Coordinator.request, hphase]

def rebindingTo : List Move :=
  [.rebind 8080, .proceed, .proceed, .graceOver, .proceed, .proceed, .delayOver]

def refused : Move := .bound (.error (.bind smallAddress .inUse))

/-- A start, a rebind that was asked for and comes to its end, one that gives up after three
attempts, a stop, and a start once more. -/
def errands : List Move :=
  [.start 8080, .bound (.ok smallAddress), .request] ++ rebindingTo ++
    [.bound (.ok smallAddress)] ++ rebindingTo ++
    [refused, .delayOver, refused, .delayOver, refused, .stop, .proceed, .proceed, .graceOver,
      .proceed, .proceed, .start 8080, .bound (.ok smallAddress)]

/-- The last start gives a listener, but no restart will ever begin again. -/
theorem state_between_errands_stuck :
    ∃ g l, small.steps errands = some g ∧ (∀ m ∈ errands, m.isOutsideRun = true) ∧
      small.ledger .empty errands = l ∧ l.returns.length = 5 ∧ g.control = .ready ∧
      g.listener = some smallAddress ∧ g.address = some smallAddress ∧
      g.board.coordinator.completed = 1 ∧ l.restarts = 1 ∧
      g.board.coordinator.phase = .rebinding ∧ g.board.request.1 = false ∧
      ∃ g', g.step (.rebind 8080) = some g' ∧ g'.listener = some smallAddress ∧
        g'.answer = some (.error (.invalidTransition ⟨.idle, .draining, .rebinding⟩)) := by
  have hms : ∀ m ∈ errands, m.isOutsideRun = true := List.all_eq_true.mp rfl
  have hmain : ∃ g l, small.steps errands = some g ∧ small.ledger .empty errands = l ∧
      l.returns.length = 5 ∧ g.control = .ready ∧ g.listener = some smallAddress ∧
      l.restarts = 1 ∧ l.isStuck 3 = true :=
    ⟨_, _, rfl, rfl, rfl, rfl, rfl, rfl, rfl⟩
  obtain ⟨g, l, hrun, hledger, hlength, hcontrol, hlistener, hrestarts, hstuck⟩ := hmain
  obtain ⟨hheld, -, -, hcompleted, -, hready, hfinal⟩ := state_between_errands hrun hms hledger
  have hgave := Ledger.isStuck_iff.mp hstuck
  obtain ⟨-, hno, hrebind⟩ := hfinal hgave [] g (by simp) rfl
  obtain ⟨g', hstep, -, hanswer, hlistener', -⟩ := hrebind hcontrol 8080
  rw [hrestarts] at hcompleted
  exact ⟨g, l, hrun, hms, hledger, hlength, hcontrol, hlistener, (hheld _ hlistener).2, hcompleted,
    hrestarts, (hready hcontrol).2.mpr hgave, hno, g', hstep, hlistener'.trans hlistener, hanswer⟩

end Gateway

end SocketGateway
