import SocketGateway.Proofs.Errands
import SocketGateway.Proofs.Vacancy

/-!
# A rebind from its beginning to its end

A rebind stops the gateway, and then goes through laps: it waits, attempts to bind, and waits again
if that failed and another attempt is left. `Lasts` follows it through the moves of everybody until
the supervisor has left it, and collects the laps. `Underway` is what holds at each point on the way,
with the results of the attempts so far. Only the last attempt decides how the rebind ends, and from
every point the supervisor can bring it to its end by itself.
-/

namespace SocketGateway

open SocketGateway.Net (SocketAddress)
open SocketGateway.Restart (Phase)

/-! ## Laps -/

abbrev BindResult := Except GatewayError SocketAddress

/-- What takes its time in a rebind once the gateway has stopped: a delay, or an attempt to bind at a
port. -/
inductive Lap where
  | delay
  | attempt (port : UInt16) (r : BindResult)

def Lap.result? : Lap → Option BindResult
  | .delay => none
  | .attempt _ r => some r

def rounds (port : UInt16) (rs : List BindResult) : List Lap :=
  rs.flatMap fun r => [.delay, .attempt port r]

theorem rounds_snoc {port : UInt16} {rs : List BindResult} {r : BindResult} :
    rounds port (rs ++ [r]) = rounds port rs ++ [.delay, .attempt port r] := by
  simp [rounds]

theorem results_rounds {port : UInt16} {rs : List BindResult} :
    (rounds port rs).filterMap Lap.result? = rs := by
  induction rs with
  | nil => rfl
  | cons r rs ih =>
      show r :: (rounds port rs).filterMap Lap.result? = r :: rs
      rw [ih]

/-- The attempts among some laps give these results, one after the other. -/
def Follows (results : Nat → BindResult) (ls : List Lap) : Prop :=
  ∀ j r, (ls.filterMap Lap.result?)[j]? = some r → r = results j

theorem Follows.append {results : Nat → BindResult} {ls ls' : List Lap} (h : Follows results ls)
    (hls : ls'.filterMap Lap.result? = [] ∨
      ls'.filterMap Lap.result? = [results (ls.filterMap Lap.result?).length]) :
    Follows results (ls ++ ls') := by
  intro j r hr
  rw [List.filterMap_append] at hr
  rcases hls with hls | hls
  · rw [hls, List.append_nil] at hr
    exact h j r hr
  · rw [hls, List.getElem?_append] at hr
    split at hr
    · exact h j r hr
    · rw [List.getElem?_singleton] at hr
      split at hr
      · rename_i hge hzero
        have hj : j = (ls.filterMap Lap.result?).length := by omega
        rw [hj]
        exact (Option.some.inj hr).symm
      · cases hr

theorem follows_rounds {results : Nat → BindResult} {port : UInt16} {rs : List BindResult} :
    Follows results (rounds port rs) ↔ rs = (List.range rs.length).map results := by
  unfold Follows
  rw [results_rounds]
  constructor
  · intro h
    refine List.ext_getElem (by simp) fun j hj _ => ?_
    rw [h j rs[j] (List.getElem?_eq_getElem hj)]
    simp
  · intro h j r hr
    obtain ⟨hj, -⟩ := List.getElem?_eq_some_iff.mp hr
    rw [h] at hr
    simpa [hj, eq_comm] using hr

/-- Attempts that all failed but for the last one, and the results that they follow. -/
theorem Follows.split {results : Nat → BindResult} {port : UInt16} {rs : List BindResult}
    {r : BindResult} (h : Follows results (rounds port (rs ++ [r])))
    (hfailed : ∀ r ∈ rs, ∃ e, r = .error e) :
    r = results rs.length ∧ (∀ j < rs.length, ∃ e, results j = .error e) ∧
      rs ++ [r] = (List.range (rs.length + 1)).map results := by
  have hall : rs ++ [r] = (List.range (rs.length + 1)).map results := by
    have h' := follows_rounds.mp h
    rwa [List.length_append] at h'
  unfold Follows at h
  rw [results_rounds] at h
  refine ⟨h _ r (by simp), fun j hj => ?_, hall⟩
  have hresult : rs[j] = results j := h j _ (by simp [List.getElem?_append_left hj])
  obtain ⟨e, he⟩ := hfailed _ (List.getElem_mem hj)
  exact ⟨e, hresult.symm.trans he⟩

def Move.isOfRebind : Move → Bool
  | .proceed | .graceOver | .abort _ | .delayOver | .bound _ => true
  | _ => false

/-- How many moves the supervisor is from the end of a rebind with at most `n` attempts, if nobody
has to be aborted and all of them fail. -/
def Control.toGo (n : Nat) : Control → Nat
  | .stopping _ .closing => 2 * n + 5
  | .stopping _ .draining => 2 * n + 4
  | .stopping _ .grace => 2 * n + 3
  | .stopping _ .aborting => 2 * n + 2
  | .stopping _ .swept => 2 * n + 1
  | .delaying _ number => 2 * (n - number) + 2
  | .binding _ (.rebind number) => 2 * (n - number) + 1
  | _ => 0

namespace Gateway

variable {g g₀ g₁ g₂ g' : Gateway} {m : Move} {ms : List Move} {port : UInt16}
  {rs : List BindResult} {ls : List Lap} {e : GatewayError} {a : SocketAddress}
  {results : Nat → BindResult}

/-- An attempt that fails as soon as it begins, since the heartbeat is wrong. -/
def misfire (g : Gateway) (port : UInt16) : List Lap :=
  match g.board.heartbeat.validate with
  | .ok _ => []
  | .error e => [.attempt port (.error (.config e))]

/-- The laps of a rebind that end with a move. Without the right phase there is no attempt. -/
def laps (g : Gateway) : Move → List Lap
  | .delayOver =>
    match g.control with
    | .delaying port number =>
      if number = 1 ∧ g.board.coordinator.phase ≠ .waiting then [.delay]
      else .delay :: g.misfire port
    | _ => []
  | .bound r =>
    match g.control with
    | .binding port (.rebind _) => [.attempt port r]
    | _ => []
  | _ => []

theorem laps_of_plain (hplain : m.isPlain = true) (hattempts : m.attempts = 0) : g.laps m = [] := by
  cases m with
  | bound => cases hplain
  | delayOver => cases hattempts
  | _ => rfl

/-- **A rebind lasts** through moves of whomever, with these laps, as long as the supervisor has not
left it. -/
inductive Lasts (g : Gateway) : List Move → List Lap → Gateway → Prop
  | refl : Lasts g [] [] g
  | snoc {ms : List Move} {ls : List Lap} {m : Move} {g₁ g₂ : Gateway} (h : Lasts g ms ls g₁)
      (busy : g₁.control.isRestarting = true) (step : g₁.step m = some g₂) :
      Lasts g (ms ++ [m]) (ls ++ g₁.laps m) g₂

/-- A rebind at a port begins: the supervisor is called for it outside a run, or notices within a
run that a restart was asked for. -/
inductive Begins (g : Gateway) : UInt16 → Move → Prop
  | called {port : UInt16} (control : g.control = .ready) (outside : g.running = false) :
      Begins g port (.rebind port)
  | noticed {a : SocketAddress} (control : g.control = .accepting) (inside : g.running = true)
      (phase : g.board.coordinator.phase = .draining) (address : g.address = some a) :
      Begins g a.port .noticeRestart

/-- A rebind has given something back: to its caller, or to its run, which goes on or fails. -/
def HasReturned (g₀ g : Gateway) (r : BindResult) : Prop :=
  if g₀.running then
    match r with
    | .ok _ => g.control = .looping
    | .error e => g.control = .finished (.error e)
  else g.control = .ready ∧ g.answer = some (r.map some)

/-- A rebind has come to its end with a new listener. -/
structure Rebound (g₀ g : Gateway) (a : SocketAddress) : Prop where
  returned : g₀.HasReturned g (.ok a)
  listener : g.listener = some a
  address : g.address = some a
  phase : g.board.coordinator.phase = .idle
  completed : g.board.coordinator.completed = g₀.board.coordinator.completed + 1

/-- A rebind has given up. -/
structure GaveUp (g₀ g : Gateway) (e : GatewayError) : Prop where
  returned : g₀.HasReturned g (.error e)
  listener : g.listener = none
  address : g.address = g₀.address
  phase : g.board.coordinator.phase = .rebinding
  completed : g.board.coordinator.completed = g₀.board.coordinator.completed

theorem hasReturned_of_run {r : BindResult} (hrun : g₀.running = true)
    (hcontrol : g.control = match r with
      | .ok _ => .looping
      | .error e => .finished (.error e)) : g₀.HasReturned g r := by
  unfold HasReturned
  rw [if_pos hrun]
  cases r <;> exact hcontrol

theorem hasReturned_of_call {r : BindResult} (hrun : ¬g₀.running = true)
    (hcontrol : g.control = .ready) (hanswer : g.answer = some (r.map some)) :
    g₀.HasReturned g r := by
  unfold HasReturned
  rw [if_neg hrun]
  exact ⟨hcontrol, hanswer⟩

theorem HasReturned.left {r : BindResult} (h : g₀.HasReturned g r) :
    g.control.isRestarting = false ∧ g.control.isVacant = true := by
  unfold HasReturned at h
  split at h
  · cases r with
    | ok a =>
        change g.control = _ at h
        rw [h]
        exact ⟨rfl, rfl⟩
    | error e =>
        change g.control = _ at h
        rw [h]
        exact ⟨rfl, rfl⟩
  · rw [h.1]
    exact ⟨rfl, rfl⟩

/-- No move in the middle of a rebind changes the heartbeat. -/
theorem Lasts.heartbeat (h : g.Lasts ms ls g') : g'.board.heartbeat = g.board.heartbeat := by
  induction h with
  | refl => rfl
  | snoc _ _ hstep ih => exact (heartbeat_step hstep).trans ih

/-! ## On the way -/

/-- Where a rebind of at most `n` attempts is, once these have failed, and its laps so far. -/
inductive Leg (n : Nat) (port : UInt16) (rs : List BindResult) : Control → List Lap → Prop
  | stopping {stage : StopStage} (none : rs = []) : Leg n port rs (.stopping (.rebind port) stage) []
  | delaying {number : Nat} (next : number = rs.length + 1) (more : rs.length < n) :
      Leg n port rs (.delaying port number) (rounds port rs)
  | binding {number : Nat} (next : number = rs.length + 1) (more : rs.length < n) :
      Leg n port rs (.binding port (.rebind number)) (rounds port rs ++ [.delay])

/-- What a rebind leaves alone until it ends. -/
structure Untouched (g₀ g : Gateway) : Prop where
  attempts : g.attempts = g₀.attempts
  running : g.running = g₀.running
  address : g.address = g₀.address
  completed : g.board.coordinator.completed = g₀.board.coordinator.completed

/-- **A rebind is under way**: the supervisor and the coordinator keep step, all attempts so far have
failed, and from the first thing that it does on no listener is held. -/
structure Underway (g₀ : Gateway) (port : UInt16) (rs : List BindResult) (ls : List Lap)
    (g : Gateway) : Prop where
  leg : Leg (max 1 g₀.attempts) port rs g.control ls
  agrees : g.control.agrees g.board.coordinator.phase
  failed : ∀ r ∈ rs, ∃ e, r = .error e
  untouched : g₀.Untouched g
  closed : g.control ≠ .stopping (.rebind port) .closing → g.listener = none

/-- **A rebind has come to its end** after these laps: the last attempt succeeded, or it was the last
one of all and failed like those before. -/
inductive Concluded (g₀ : Gateway) (port : UInt16) : List Lap → Gateway → Prop
  | bound {rs : List BindResult} {a : SocketAddress} {g : Gateway}
      (more : rs.length < max 1 g₀.attempts) (failed : ∀ r ∈ rs, ∃ e, r = .error e)
      (rebound : g₀.Rebound g a) : Concluded g₀ port (rounds port (rs ++ [.ok a])) g
  | gaveUp {rs : List BindResult} {e : GatewayError} {g : Gateway}
      (all : rs.length + 1 = max 1 g₀.attempts) (failed : ∀ r ∈ rs, ∃ e, r = .error e)
      (gaveUp : g₀.GaveUp g e) : Concluded g₀ port (rounds port (rs ++ [.error e])) g

theorem Concluded.left (h : g₀.Concluded port ls g) :
    g.control.isRestarting = false ∧ g.control.isVacant = true := by
  cases h with
  | bound _ _ rebound => exact rebound.returned.left
  | gaveUp _ _ gaveUp => exact gaveUp.returned.left

/-- A request in the middle of a restart changes nothing. -/
theorem coordinator_of_asked {b b' : Switchboard} (h : b.Asked b')
    (hphase : b.coordinator.phase ≠ .idle) : b'.coordinator = b.coordinator := by
  refine h.keeps (P := fun c _ => c = b.coordinator) (fun c _ hc => ?_) rfl
  rw [hc, Restart.Coordinator.request, if_neg hphase]

namespace Untouched

/-- Whatever happens to the board in the middle of a restart. -/
theorem of_coordinator {b : Switchboard} (h : g₀.Untouched g)
    (hb : b.coordinator = g.board.coordinator) : g₀.Untouched { g with board := b } :=
  ⟨h.attempts, h.running, h.address, by rw [← h.completed, ← hb]⟩

/-- A rebind that fails in its last phase. -/
theorem fail (h : g₀.Untouched g) (hphase : g.board.coordinator.phase = .rebinding)
    (hlistener : g.listener = none) : g₀.GaveUp (g.fail e) e := by
  unfold Gateway.fail
  split <;> rename_i hrun
  · have habort : g.board.abortAll.coordinator = g.board.coordinator :=
      coordinator_of_asked .abortAll (by simp [hphase])
    exact {
      returned := hasReturned_of_run (h.running ▸ hrun) rfl
      listener := rfl
      address := h.address
      phase := (congrArg _ habort).trans hphase
      completed := (congrArg _ habort).trans h.completed }
  · exact ⟨hasReturned_of_call (h.running ▸ hrun) rfl rfl, hlistener, h.address, hphase, h.completed⟩

end Untouched

/-- **An attempt has failed**: another one follows, or the rebind gives up. -/
theorem attemptFailed_outcome (h : g₀.Untouched g) (hphase : g.board.coordinator.phase = .rebinding)
    (hlistener : g.listener = none) (hfailed : ∀ r ∈ rs, ∃ e, r = .error e)
    (hmore : rs.length < max 1 g₀.attempts) :
    g₀.Underway port (rs ++ [.error e]) (rounds port (rs ++ [.error e]))
        (g.attemptFailed port (rs.length + 1) e) ∨
      g₀.Concluded port (rounds port (rs ++ [.error e]))
        (g.attemptFailed port (rs.length + 1) e) := by
  rw [← h.attempts] at hmore
  unfold Gateway.attemptFailed
  split <;> rename_i hnext
  · left
    rw [h.attempts] at hnext
    have hlength : (rs ++ [(.error e : BindResult)]).length = rs.length + 1 := List.length_append
    refine ⟨.delaying (by rw [hlength]) (hlength ▸ hnext),
      .inr ⟨Nat.succ_lt_succ (Nat.succ_pos _), hphase⟩, ?_, ?_, fun _ => hlistener⟩
    · intro r hr
      rcases List.mem_append.mp hr with hr | hr
      · exact hfailed r hr
      · exact ⟨e, List.mem_singleton.mp hr⟩
    · exact ⟨h.attempts, h.running, h.address, h.completed⟩
  · right
    have hall : rs.length + 1 = max 1 g.attempts := Nat.le_antisymm hmore (Nat.le_of_not_lt hnext)
    exact .gaveUp (h.attempts ▸ hall) hfailed (h.fail hphase hlistener)

/-- **An attempt begins**, or fails at once for a wrong heartbeat. -/
theorem attemptAgain_outcome (h : g₀.Untouched g) (hphase : g.board.coordinator.phase = .rebinding)
    (hlistener : g.listener = none) (hfailed : ∀ r ∈ rs, ∃ e, r = .error e)
    (hmore : rs.length < max 1 g₀.attempts) :
    (∃ rs', g₀.Underway port rs' (rounds port rs ++ .delay :: g.misfire port)
        (g.attemptAgain port (rs.length + 1))) ∨
      g₀.Concluded port (rounds port rs ++ .delay :: g.misfire port)
        (g.attemptAgain port (rs.length + 1)) := by
  unfold attemptAgain attempt misfire
  cases hbeat : g.board.heartbeat.validate with
  | ok _ =>
      left
      refine ⟨rs, ?_⟩
      exact {
        leg := .binding rfl hmore
        agrees := ⟨Nat.succ_pos _, hphase⟩
        failed := hfailed
        untouched := ⟨h.attempts, h.running, h.address, h.completed⟩
        closed := fun _ => rfl }
  | error e =>
      dsimp only
      rw [← rounds_snoc]
      exact (attemptFailed_outcome h hphase hlistener hfailed hmore).imp_left fun h => ⟨_, h⟩

/-- **An attempt is over.** -/
theorem bindingDone_outcome {r : BindResult} (h : g₀.Untouched g)
    (hphase : g.board.coordinator.phase = .rebinding) (hlistener : g.listener = none)
    (hfailed : ∀ r ∈ rs, ∃ e, r = .error e) (hmore : rs.length < max 1 g₀.attempts) :
    (∃ rs', g₀.Underway port rs' (rounds port (rs ++ [r]))
        (g.bindingDone port (.rebind (rs.length + 1)) r)) ∨
      g₀.Concluded port (rounds port (rs ++ [r]))
        (g.bindingDone port (.rebind (rs.length + 1)) r) := by
  cases r with
  | error e => exact (attemptFailed_outcome h hphase hlistener hfailed hmore).imp_left fun h => ⟨_, h⟩
  | ok a =>
      right
      refine .bound hmore hfailed ?_
      unfold bindingDone
      refine moveOn_of_phase (P := fun g => g₀.Rebound g a) hphase rfl ?_
      have hcompleted : (g.board.coordinator.enter .idle).completed =
          g₀.board.coordinator.completed + 1 := by
        rw [← h.completed]
        rfl
      by_cases hrun : g.running = true
      · rw [if_pos (show (g.hold a).running = true from hrun)]
        exact ⟨hasReturned_of_run (h.running ▸ hrun) rfl, rfl, rfl, rfl, hcompleted⟩
      · rw [if_neg (show ¬(g.hold a).running = true from hrun)]
        exact ⟨hasReturned_of_call (h.running ▸ hrun) rfl rfl, rfl, rfl, rfl, hcompleted⟩

namespace Underway

theorem isRestarting (h : g₀.Underway port rs ls g) : g.control.isRestarting = true := by
  cases hcontrol : g.control with
  | stopping | delaying | binding =>
      have hleg := h.leg
      rw [hcontrol] at hleg
      cases hleg
      rfl
  | _ =>
      have hleg := h.leg
      rw [hcontrol] at hleg
      cases hleg

theorem phase_ne_idle (h : g₀.Underway port rs ls g) : g.board.coordinator.phase ≠ .idle :=
  Control.ne_idle_of_agrees h.agrees h.isRestarting

/-- What somebody else does is nothing to a rebind, unless it moves the coordinator on. -/
theorem deed {b : Switchboard} (h : g₀.Underway port rs ls g) (hasked : g.board.Asked b) :
    g₀.Underway port rs ls { g with board := b } := by
  have hsame : b.coordinator = g.board.coordinator := coordinator_of_asked hasked h.phase_ne_idle
  refine ⟨h.leg, ?_, h.failed, h.untouched.of_coordinator hsame, h.closed⟩
  show g.control.agrees b.coordinator.phase
  rw [hsame]
  exact h.agrees

/-- A stop goes on. -/
theorem stage {b : Switchboard} {stage stage' : StopStage} {l : Option SocketAddress}
    (h : g₀.Underway port rs ls g) {p : StopPurpose} (hcontrol : g.control = .stopping p stage)
    (hb : b.coordinator = g.board.coordinator) (hl : l = none) :
    g₀.Underway port rs ls { g with board := b, listener := l, control := .stopping p stage' } := by
  have hleg := h.leg
  have hagrees := h.agrees
  rw [hcontrol] at hleg hagrees
  cases hleg with
  | stopping none =>
      have huntouched := h.untouched
      refine ⟨.stopping none, ?_, h.failed, ?_, fun _ => hl⟩
      · show b.coordinator.phase = .draining
        rw [hb]
        exact hagrees
      · exact ⟨huntouched.attempts, huntouched.running, huntouched.address,
          hb ▸ huntouched.completed⟩

theorem turn (h : g₀.Underway port rs ls g) (hturn : Turn g m g') :
    (∃ rs', g₀.Underway port rs' (ls ++ g.laps m) g') ∨ g₀.Concluded port (ls ++ g.laps m) g' := by
  have hleg := h.leg
  have hagrees := h.agrees
  have huntouched := h.untouched
  have hclosed := h.closed
  cases hturn with
  | unfit control | start control | stop control | rebind control | run control | round control
  | noticeRestart control | nowhere control | shutdown control =>
      rw [control] at hleg
      cases hleg
  | @close p control =>
      left
      refine ⟨rs, ?_⟩
      rw [laps_of_plain rfl rfl, List.append_nil]
      exact h.stage (b := g.board) control rfl rfl
  | drain control | sweep control | graceOver control =>
      left
      refine ⟨rs, ?_⟩
      rw [laps_of_plain rfl rfl, List.append_nil]
      refine h.stage (b := _) control rfl (hclosed ?_)
      rw [control]
      exact fun h => StopStage.noConfusion (Control.stopping.inj h).2
  | @stopped p control =>
      rw [control] at hleg hagrees hclosed
      cases hleg with
      | stopping none =>
          left
          subst none
          refine ⟨[], ?_⟩
          show g₀.Underway port [] [] (g.afterStop (.rebind port))
          unfold afterStop
          refine moveOn_of_phase (P := g₀.Underway port [] []) hagrees rfl ?_
          exact {
            leg := .delaying rfl (Nat.lt_of_lt_of_le Nat.one_pos (Nat.le_max_left ..))
            agrees := .inl ⟨rfl, rfl⟩
            failed := h.failed
            untouched := ⟨huntouched.attempts, huntouched.running, huntouched.address,
              huntouched.completed⟩
            closed := fun _ => hclosed (by simp) }
  | @firstAttempt p control =>
      rw [control] at hleg hagrees hclosed
      cases hleg with
      | delaying next more =>
          have hnone : rs = [] := List.length_eq_zero_iff.mp (Nat.succ.inj next).symm
          have hphase : g.board.coordinator.phase = .waiting := by
            rcases hagrees with ⟨-, hphase⟩ | ⟨hlt, -⟩
            · exact hphase
            · exact absurd hlt (Nat.lt_irrefl 1)
          have hlaps : g.laps .delayOver = .delay :: g.misfire port := by
            simp [laps, control, hphase]
          subst hnone
          rw [hlaps]
          refine moveOn_of_phase (P := fun g' => (∃ rs', g₀.Underway port rs' _ g') ∨
            g₀.Concluded port _ g') hphase rfl ?_
          have hmoved : g₀.Untouched { g with
              board := { g.board with coordinator := g.board.coordinator.enter .rebinding } } :=
            ⟨huntouched.attempts, huntouched.running, huntouched.address, huntouched.completed⟩
          exact attemptAgain_outcome hmoved rfl (hclosed Control.noConfusion) h.failed more
  | @nextAttempt p number control again =>
      rw [control] at hleg hagrees hclosed
      cases hleg with
      | delaying next more =>
          have hphase : g.board.coordinator.phase = .rebinding := by
            rcases hagrees with ⟨hone, -⟩ | ⟨-, hphase⟩
            · exact absurd hone again
            · exact hphase
          have hlaps : g.laps .delayOver = .delay :: g.misfire port := by
            simp [laps, control, again]
          subst next
          rw [hlaps]
          exact attemptAgain_outcome huntouched hphase (hclosed Control.noConfusion) h.failed more
  | @bound p attempt r control =>
      rw [control] at hleg hagrees hclosed
      cases hleg with
      | binding next more =>
          subst next
          have hls : rounds port rs ++ [.delay] ++ g.laps (.bound r) = rounds port (rs ++ [r]) := by
            rw [rounds_snoc, laps, control]
            simp
          rw [hls]
          exact bindingDone_outcome huntouched hagrees.2 (hclosed Control.noConfusion) h.failed more

/-- **A move in the middle of a rebind**, whoever makes it. -/
theorem step (h : g₀.Underway port rs ls g) (hm : ∀ source target, m ≠ .transition source target)
    (hstep : g.step m = some g') :
    (∃ rs', g₀.Underway port rs' (ls ++ g.laps m) g') ∨ g₀.Concluded port (ls ++ g.laps m) g' := by
  rcases step_cases hstep with ⟨d, b, hd, hb, rfl, -⟩ | ⟨-, hturn⟩
  · have hplain : m.isPlain = true ∧ m.attempts = 0 := by
      cases m with
      | delayOver | bound => cases hd
      | _ => exact ⟨Move.isPlain_of_deed? hd, rfl⟩
    rw [laps_of_plain hplain.1 hplain.2, List.append_nil]
    refine .inl ⟨rs, h.deed (.perform hb ?_)⟩
    rintro source target rfl
    exact hm source target (Move.eq_transition hd)
  · exact h.turn hturn

/-- A rebind lasts for as long as it is under way, and then it has come to its end. -/
theorem lasts (h : g₀.Underway port [] [] g₁) (hlasts : g₁.Lasts ms ls g)
    (hms : ∀ source target, .transition source target ∉ ms) :
    (∃ rs, g₀.Underway port rs ls g) ∨ g₀.Concluded port ls g := by
  induction hlasts with
  | refl => exact .inl ⟨[], h⟩
  | @snoc ms ls m g g' hlasts busy hstep ih =>
      simp only [List.mem_append, not_or] at hms
      rcases ih fun source target => (hms source target).1 with ⟨rs, hunder⟩ | hended
      · refine hunder.step ?_ hstep
        rintro source target rfl
        exact (hms source target).2 List.mem_cons_self
      · rw [hended.left.1] at busy
        cases busy

end Underway

theorem underway_of_begins (h : g.Begins port m)
    (hphase : g.board.coordinator.phase = .idle ∨ g.board.coordinator.phase = .draining) :
    g.step m = some (g.beginRebind port) ∧ g.Underway port [] [] (g.beginRebind port) ∧
      (g.beginRebind port).board.heartbeat = g.board.heartbeat ∧
      (g.beginRebind port).control.isVacant = false := by
  have hstep : g.step m = some (g.beginRebind port) := by
    cases h with
    | called control => simp [Gateway.step, control]
    | noticed control _ phase address => simp [Gateway.step, control, phase, address]
  refine ⟨hstep, ?_⟩
  refine beginRebind_cases (P := fun g' => g.Underway port [] [] g' ∧
    g'.board.heartbeat = g.board.heartbeat ∧ g'.control.isVacant = false) (fun _ => ?_)
    fun hidle hdraining => absurd hphase (not_or.mpr ⟨hidle, hdraining⟩)
  have hrequested : g.board.request.2.coordinator.phase = .draining ∧
      g.board.request.2.coordinator.completed = g.board.coordinator.completed := by
    unfold Switchboard.request Restart.Coordinator.request
    rcases hphase with hphase | hphase
    · simp [hphase, Restart.Coordinator.enter]
    · simp [hphase]
  refine ⟨?_, rfl, rfl⟩
  exact {
    leg := .stopping rfl
    agrees := hrequested.1
    failed := fun r hr => absurd hr List.not_mem_nil
    untouched := ⟨rfl, rfl, rfl, hrequested.2⟩
    closed := fun h => absurd rfl h }

/-! ## Who is left -/

/-- In the middle of a restart nobody is there as soon as the registry is swept. -/
theorem vacant_of_step (hbusy : g.control.isRestarting = true) (hown : ∀ ns, m ≠ .register ns)
    (hg : g.control.isVacant = true → g.board.Vacant) (hstep : g.step m = some g')
    (hvacant : g'.control.isVacant = true) : g'.board.Vacant := by
  rcases step_cases hstep with ⟨d, b, hd, hb, rfl, haccept⟩ | ⟨-, hturn⟩
  · refine (hg hvacant).perform ?_ ?_ hb
    · rintro peer rfl
      rw [haccept peer rfl] at hbusy
      cases hbusy
    · rintro ns rfl
      exact hown ns (Move.eq_register hd)
  · cases hbefore : g.control.isVacant with
    | true => exact hturn.vacant (hg hbefore)
    | false =>
        cases hturn with
        | sweep _ gone => exact .drain gone
        | close | drain | graceOver | shutdown => cases hvacant
        | unfit control | start control | stop control | rebind control | run control
        | bound control | round control | stopped control | firstAttempt control
        | nextAttempt control =>
            rw [control] at hbefore
            cases hbefore
        | noticeRestart control | nowhere control =>
            rw [control] at hbusy
            cases hbusy

theorem Lasts.vacant (h : g.Lasts ms ls g') (hg : g.control.isVacant = false)
    (hown : ∀ ns, .register ns ∉ ms) : g'.control.isVacant = true → g'.board.Vacant := by
  induction h with
  | refl =>
      intro hvacant
      rw [hg] at hvacant
      cases hvacant
  | snoc _ busy hstep ih =>
      simp only [List.mem_append, not_or] at hown
      refine vacant_of_step busy ?_ (ih fun ns => (hown ns).1) hstep
      rintro ns rfl
      exact (hown ns).2 List.mem_cons_self

/-! ## The way to the end -/

/-- How many moves a rebind still takes at most, if the supervisor is left alone and no session
lives; each session that lives may take one more. -/
def toGo (g : Gateway) : Nat :=
  g.control.toGo (max 1 g.attempts) + g.board.sessions.countP (·.stage.isLive)

theorem toGo_lt {c c' : Control} (hc : g.control = c) (hc' : g'.control = c')
    (hattempts : g'.attempts = g.attempts) (hsessions : g'.board.sessions = g.board.sessions)
    (h : c'.toGo (max 1 g.attempts) < c.toGo (max 1 g.attempts)) : g'.toGo < g.toGo := by
  unfold toGo
  rw [hc, hc', hattempts, hsessions]
  exact Nat.add_lt_add_right h _

/-- A session that lives can be aborted, and then one less lives. -/
theorem exists_abort {b : Switchboard} (h : b.hasLive = true) : ∃ i b', b.abort i = some b' ∧
    b'.sessions.countP (·.stage.isLive) < b.sessions.countP (·.stage.isLive) := by
  obtain ⟨session, hmem, hlive⟩ := List.any_eq_true.mp h
  obtain ⟨i, hi⟩ := List.mem_iff_getElem?.mp hmem
  obtain ⟨b', hb'⟩ : ∃ b', b.abort i = some b' := by
    have hstage : b.stage? i = some session.stage := by simp [Switchboard.stage?, hi]
    simp only [Switchboard.abort, Switchboard.cutOff, hstage, Option.bind_eq_bind, Option.bind_some,
      if_pos hlive]
    split <;> exact ⟨_, rfl⟩
  have hsessions : b'.sessions =
      b.sessions.modify i fun s => { s with stage := .ended .aborted } := by
    obtain ⟨st, -, -, ⟨c, -, rfl⟩ | ⟨-, rfl⟩⟩ := Switchboard.cutOff_cases hb' <;> rfl
  obtain ⟨hlt, hget⟩ := List.getElem?_eq_some_iff.mp hi
  have hsplit : b.sessions = b.sessions.take i ++ session :: b.sessions.drop (i + 1) := by
    rw [← hget, ← List.drop_eq_getElem_cons, List.take_append_drop]
  refine ⟨i, b', hb', ?_⟩
  rw [hsessions, List.modify_eq_take_cons_drop hlt, hget]
  have hended : (Stage.ended .aborted).isLive = false := rfl
  calc _ < (b.sessions.take i ++ session :: b.sessions.drop (i + 1)).countP (·.stage.isLive) := by
        simp [hlive, hended]
    _ = b.sessions.countP (·.stage.isLive) := by rw [← hsplit]

/-- A stop goes on by itself, one stage after the other. -/
theorem exists_step_of_stopping {p : StopPurpose} {stage : StopStage}
    (hcontrol : g.control = .stopping p stage) (hphase : g.board.coordinator.phase = .draining)
    (hp : p = .rebind port) :
    ∃ m g', g.step m = some g' ∧ m.isOfRebind = true ∧ g.laps m = [] ∧ g'.toGo < g.toGo := by
  cases stage with
  | closing =>
      have hstep : g.step .proceed =
          some { g with listener := none, control := .stopping p .draining } := by
        simp only [step, proceed, hcontrol]
      refine ⟨.proceed, _, hstep, rfl, rfl, ?_⟩
      exact toGo_lt hcontrol rfl rfl rfl (Nat.lt_succ_self _)
  | draining =>
      have hstep : g.step .proceed = some { g.drainAll with control := .stopping p .grace } := by
        simp only [step, proceed, hcontrol]
      refine ⟨.proceed, _, hstep, rfl, rfl, ?_⟩
      exact toGo_lt hcontrol rfl rfl rfl (Nat.lt_succ_self _)
  | grace =>
      have hstep : g.step .graceOver = some { g with control := .stopping p .aborting } := by
        simp only [step, hcontrol]
      refine ⟨.graceOver, _, hstep, rfl, rfl, ?_⟩
      exact toGo_lt hcontrol rfl rfl rfl (Nat.lt_succ_self _)
  | aborting =>
      cases hlive : g.board.hasLive with
      | true =>
          obtain ⟨i, b, hb, hcount⟩ := exists_abort hlive
          have hstep : g.step (.abort i) = some { g with board := b } := by
            simp only [step, hcontrol, hb, Option.map_some]
          exact ⟨.abort i, _, hstep, rfl, rfl, Nat.add_lt_add_left hcount _⟩
      | false =>
          have hstep : g.step .proceed = some { g.drainAll with control := .stopping p .swept } := by
            simp only [step, proceed, hcontrol, hlive, if_neg Bool.false_ne_true]
          refine ⟨.proceed, _, hstep, rfl, rfl, ?_⟩
          exact toGo_lt hcontrol rfl rfl rfl (Nat.lt_succ_self _)
  | swept =>
      have hstep : g.step .proceed = some (g.afterStop p) := by
        simp only [step, proceed, hcontrol]
      refine ⟨.proceed, _, hstep, rfl, rfl, ?_⟩
      subst hp
      unfold afterStop
      refine moveOn_of_phase (P := fun g' => g'.toGo < g.toGo) hphase rfl ?_
      refine toGo_lt hcontrol rfl rfl rfl ?_
      have hpos : 1 ≤ max 1 g.attempts := Nat.le_max_left ..
      show 2 * (max 1 g.attempts - 1) + 2 < 2 * max 1 g.attempts + 1
      omega

/-- An attempt that failed brings a rebind on, if it does not give up. -/
theorem toGo_attemptFailed {number k : Nat}
    (hbusy : (g.attemptFailed port number e).control.isRestarting = true)
    (hk : 2 * (max 1 g.attempts - number) < k) :
    (g.attemptFailed port number e).toGo < k + g.board.sessions.countP (·.stage.isLive) := by
  unfold attemptFailed at hbusy ⊢
  split at hbusy <;> rename_i hmore
  · rw [if_pos hmore]
    refine Nat.add_lt_add_right ?_ _
    show 2 * (max 1 g.attempts - (number + 1)) + 2 < k
    omega
  · exfalso
    revert hbusy
    refine fail_cases (P := fun g => ¬g.control.isRestarting = true) (fun _ => ?_) fun _ => ?_
    · exact Bool.false_ne_true
    · exact Bool.false_ne_true

theorem toGo_attemptAgain {number : Nat}
    (hbusy : (g.attemptAgain port number).control.isRestarting = true) :
    (g.attemptAgain port number).toGo <
      2 * (max 1 g.attempts - number) + 2 + g.board.sessions.countP (·.stage.isLive) := by
  unfold attemptAgain attempt at hbusy ⊢
  cases hbeat : g.board.heartbeat.validate with
  | ok _ => exact Nat.add_lt_add_right (Nat.lt_succ_self _) _
  | error e =>
      simp only [hbeat] at hbusy
      exact toGo_attemptFailed hbusy (by omega)

/-- A delay comes to its end, and the next attempt begins. -/
theorem exists_step_of_delaying {number : Nat} {r : BindResult}
    (hcontrol : g.control = .delaying port number)
    (hphase : number = 1 → g.board.coordinator.phase = .waiting)
    (hr : ∀ e, g.board.heartbeat.validate = .error e → r = .error (.config e)) :
    ∃ g', g.step .delayOver = some g' ∧
      ((g.laps .delayOver).filterMap Lap.result? = [] ∨
        (g.laps .delayOver).filterMap Lap.result? = [r]) ∧
      (g'.control.isRestarting = true → g'.toGo < g.toGo) := by
  have hresults : (g.laps .delayOver).filterMap Lap.result? = [] ∨
      (g.laps .delayOver).filterMap Lap.result? = [r] := by
    simp only [laps, hcontrol]
    split
    · exact .inl rfl
    · unfold misfire
      split
      · exact .inl rfl
      · rename_i e hbeat
        rw [hr e hbeat]
        exact .inr rfl
  have htoGo : g.toGo = 2 * (max 1 g.attempts - number) + 2 +
      g.board.sessions.countP (·.stage.isLive) := by
    rw [toGo, hcontrol]
    rfl
  rw [htoGo]
  by_cases hfirst : number = 1
  · subst hfirst
    have hstep : g.step .delayOver =
        some (g.moveOn .waiting .rebinding fun g => g.attemptAgain port 1) := by
      simp only [step, hcontrol]
    refine ⟨_, hstep, hresults, ?_⟩
    refine moveOn_of_phase (P := fun g' => g'.control.isRestarting = true → g'.toGo < _)
      (hphase rfl) rfl fun hbusy => ?_
    exact toGo_attemptAgain hbusy
  · have hstep : g.step .delayOver = some (g.attemptAgain port number) := by
      simp only [step, hcontrol]
    exact ⟨_, hstep, hresults, toGo_attemptAgain⟩

/-- An attempt comes to its end, whatever it gives. -/
theorem exists_step_of_binding {number : Nat} (r : BindResult)
    (hcontrol : g.control = .binding port (.rebind number))
    (hphase : g.board.coordinator.phase = .rebinding) :
    ∃ g', g.step (.bound r) = some g' ∧ (g.laps (.bound r)).filterMap Lap.result? = [r] ∧
      (g'.control.isRestarting = true → g'.toGo < g.toGo) := by
  have hstep : g.step (.bound r) = some (g.bindingDone port (.rebind number) r) := by
    simp only [step, hcontrol]
  have hresults : (g.laps (.bound r)).filterMap Lap.result? = [r] := by
    simp only [laps, hcontrol]
    rfl
  have htoGo : g.toGo = 2 * (max 1 g.attempts - number) + 1 +
      g.board.sessions.countP (·.stage.isLive) := by
    rw [toGo, hcontrol]
    rfl
  refine ⟨_, hstep, hresults, ?_⟩
  rw [htoGo]
  cases r with
  | error e => exact fun hbusy => toGo_attemptFailed hbusy (Nat.lt_succ_self _)
  | ok a =>
      refine moveOn_of_phase (P := fun g' => g'.control.isRestarting = true → _) hphase rfl ?_
      split
      · exact fun hbusy => absurd hbusy Bool.false_ne_true
      · exact fun hbusy => absurd hbusy Bool.false_ne_true

/-- **The next turn of a rebind**: from wherever it is the supervisor can go on by itself, and comes
nearer to the end. An attempt gives whatever it gives, unless the heartbeat is wrong. -/
theorem Underway.exists_step (h : g₀.Underway port rs ls g) {r : BindResult}
    (hr : ∀ e, g.board.heartbeat.validate = .error e → r = .error (.config e)) :
    ∃ m g', g.step m = some g' ∧ m.isOfRebind = true ∧
      ((g.laps m).filterMap Lap.result? = [] ∨ (g.laps m).filterMap Lap.result? = [r]) ∧
      (g'.control.isRestarting = true → g'.toGo < g.toGo) := by
  have hleg := h.leg
  have hagrees := h.agrees
  cases hcontrol : g.control with
  | stopping p stage =>
      rw [hcontrol] at hleg hagrees
      cases hleg with
      | stopping =>
          obtain ⟨m, g', hstep, hown, hlaps, hlt⟩ := exists_step_of_stopping hcontrol hagrees rfl
          exact ⟨m, g', hstep, hown, .inl (hlaps ▸ rfl), fun _ => hlt⟩
  | delaying p number =>
      rw [hcontrol] at hagrees
      have hphase : number = 1 → g.board.coordinator.phase = .waiting := by
        rintro rfl
        rcases hagrees with ⟨-, hphase⟩ | ⟨hlt, -⟩
        · exact hphase
        · exact absurd hlt (Nat.lt_irrefl 1)
      obtain ⟨g', hstep, hresults, hlt⟩ := exists_step_of_delaying hcontrol hphase hr
      exact ⟨_, g', hstep, rfl, hresults, hlt⟩
  | binding p attempt =>
      rw [hcontrol] at hleg hagrees
      cases hleg with
      | binding =>
          obtain ⟨g', hstep, hresults, hlt⟩ := exists_step_of_binding r hcontrol hagrees.2
          exact ⟨_, g', hstep, rfl, .inr hresults, hlt⟩
  | _ =>
      rw [hcontrol] at hleg
      cases hleg

/-- The attempts so far are those that have failed. -/
theorem Underway.results_eq (h : g₀.Underway port rs ls g) : ls.filterMap Lap.result? = rs := by
  have hleg := h.leg
  generalize g.control = c at hleg
  cases hleg with
  | stopping none => exact none.symm
  | delaying => exact results_rounds
  | binding =>
      rw [List.filterMap_append, results_rounds]
      exact List.append_nil rs

/-- **A rebind can always be brought to its end** by the supervisor alone, with whatever results. -/
theorem Underway.exists_end (h : g₀.Underway port [] [] g₁) (hlasts : g₁.Lasts ms ls g)
    (hms : ∀ source target, .transition source target ∉ ms) (hfollows : Follows results ls)
    (hbeat : ∀ e, g₁.board.heartbeat.validate = .error e → ∀ j, results j = .error (.config e)) :
    ∃ ms' ls' g', g₁.Lasts (ms ++ ms') (ls ++ ls') g' ∧ g'.control.isRestarting = false ∧
      (∀ m ∈ ms', m.isOfRebind = true) ∧ Follows results (ls ++ ls') := by
  induction hk : g.toGo using Nat.strongRecOn generalizing g ms ls with
  | ind k ih =>
  rcases h.lasts hlasts hms with ⟨rs, hunder⟩ | hended
  · have hsame : g.board.heartbeat = g₁.board.heartbeat := hlasts.heartbeat
    obtain ⟨m, g', hstep, hown, hresults, hlt⟩ := hunder.exists_step (r := results rs.length)
      fun e he => hbeat e (hsame ▸ he) _
    have hlasts' := hlasts.snoc hunder.isRestarting hstep
    have hfollows' : Follows results (ls ++ g.laps m) := by
      refine hfollows.append ?_
      rw [hunder.results_eq]
      exact hresults
    cases hbusy : g'.control.isRestarting with
    | true =>
        have hms' : ∀ source target, .transition source target ∉ ms ++ [m] := by
          intro source target hmem
          rcases List.mem_append.mp hmem with hmem | hmem
          · exact hms source target hmem
          · rw [← List.mem_singleton.mp hmem] at hown
            cases hown
        obtain ⟨ms', ls', g'', hlasts'', hleft, hown', hfollows''⟩ :=
          ih _ (hk ▸ hlt hbusy) hlasts' hms' hfollows' rfl
        rw [List.append_assoc, List.append_assoc] at hlasts''
        rw [List.append_assoc] at hfollows''
        exact ⟨m :: ms', _, g'', hlasts'', hleft, List.forall_mem_cons.mpr ⟨hown, hown'⟩,
          hfollows''⟩
    | false =>
        refine ⟨[m], _, g', hlasts', hbusy, ?_, hfollows'⟩
        exact fun m' hm' => List.mem_singleton.mp hm' ▸ hown
  · refine ⟨[], [], g, ?_, hended.left.1, fun _ hm => absurd hm List.not_mem_nil, ?_⟩
    · rwa [List.append_nil, List.append_nil]
    · rwa [List.append_nil]

/-! ## The main result -/

/-- A call to rebind in the middle of a restart is refused. -/
theorem beginRebind_refused (port : UInt16) (houtside : g.running = false)
    (hphase : g.board.coordinator.phase = .waiting ∨ g.board.coordinator.phase = .rebinding) :
    g.beginRebind port = { g with board := g.board.request.2 }.giveBack
        (.error (.invalidTransition ⟨.idle, .draining, g.board.coordinator.phase⟩)) ∧
      g.board.request.2.coordinator = g.board.coordinator := by
  rcases hphase with hphase | hphase
  · simp [beginRebind, Switchboard.request, Restart.Coordinator.request, hphase, fail, houtside]
  · simp [beginRebind, Switchboard.request, Restart.Coordinator.request, hphase, fail, houtside]

theorem Concluded.rebound {k : Nat} (h : g₀.Concluded port ls g) (hfollows : Follows results ls)
    (hk : k < max 1 g₀.attempts) (ha : results k = .ok a)
    (hbefore : ∀ j < k, ∃ e, results j = .error e) :
    ls = rounds port ((List.range (k + 1)).map results) ∧ g₀.Rebound g a := by
  cases h with
  | @bound rs a' _ more failed rebound =>
      obtain ⟨hlast, hfailed, hall⟩ := hfollows.split failed
      -- neither is the attempt that succeeded an earlier one, nor a later one
      have hlength : rs.length = k := by
        rcases Nat.lt_trichotomy rs.length k with hlt | heq | hgt
        · obtain ⟨e, he⟩ := hbefore _ hlt
          cases hlast.trans he
        · exact heq
        · obtain ⟨e, he⟩ := hfailed _ hgt
          cases ha.symm.trans he
      rw [hlength] at hlast hall
      cases hlast.trans ha
      exact ⟨by rw [hall], rebound⟩
  | @gaveUp rs e _ all failed _ =>
      obtain ⟨hlast, hfailed, -⟩ := hfollows.split failed
      exfalso
      rcases Nat.lt_or_ge k rs.length with hlt | hge
      · obtain ⟨e, he⟩ := hfailed _ hlt
        cases ha.symm.trans he
      · have hlength : rs.length = k := by omega
        rw [hlength] at hlast
        cases hlast.trans ha

theorem Concluded.givenUp (h : g₀.Concluded port ls g) (hfollows : Follows results ls)
    (hfailed : ∀ j < max 1 g₀.attempts, ∃ e, results j = .error e)
    (he : results (max 1 g₀.attempts - 1) = .error e) :
    ls = rounds port ((List.range (max 1 g₀.attempts)).map results) ∧ g₀.GaveUp g e := by
  cases h with
  | @bound rs a _ more failed _ =>
      obtain ⟨hlast, -, -⟩ := hfollows.split failed
      obtain ⟨e', he'⟩ := hfailed _ more
      cases hlast.trans he'
  | @gaveUp rs e' _ all failed gaveUp =>
      obtain ⟨hlast, -, hall⟩ := hfollows.split failed
      have hlength : max 1 g₀.attempts - 1 = rs.length := by omega
      rw [hlength] at he
      cases hlast.trans he
      exact ⟨by rw [hall, all], gaveUp⟩

/-- **A rebind from its beginning to its end**, from any state in which a supervisor can begin one,
within a run and outside.

* In the middle of a restart it is refused, and touches nothing.
* Otherwise it begins. Whoever does whatever meanwhile, as long as nobody else moves the coordinator
  on, it ends after the first attempt that succeeds, or after the last one of all, each attempt being
  at the same port and coming after one delay. How it ends depends on that attempt alone. It leaves
  nobody in the registry, if nobody but sessions registers.
* From any point of it the supervisor can bring it to its end, whatever the attempts are to give; only
  with a wrong heartbeat all of them fail for that. -/
theorem rebind_by_laps (hbegins : g.Begins port m) :
    (g.board.coordinator.phase = .waiting ∨ g.board.coordinator.phase = .rebinding →
      ∃ g', g.step m = some g' ∧ g'.control = .ready ∧ g'.answer =
          some (.error (.invalidTransition ⟨.idle, .draining, g.board.coordinator.phase⟩)) ∧
        g'.listener = g.listener ∧ g'.address = g.address ∧
        g'.board.registry = g.board.registry ∧ g'.board.rooms = g.board.rooms ∧
        g'.board.sessions = g.board.sessions ∧ g'.board.coordinator = g.board.coordinator) ∧
    (g.board.coordinator.phase = .idle ∨ g.board.coordinator.phase = .draining →
      ∀ results : Nat → BindResult,
      (∀ e, g.board.heartbeat.validate = .error e → ∀ j, results j = .error (.config e)) →
      ∃ g₁, g.step m = some g₁ ∧ g₁.control.isRestarting = true ∧
        (∀ ms ls g', g₁.Lasts ms ls g' → g'.control.isRestarting = false →
          (∀ source target, .transition source target ∉ ms) → Follows results ls →
          (∀ k a, k < max 1 g.attempts → results k = .ok a →
            (∀ j < k, ∃ e, results j = .error e) →
            ls = rounds port ((List.range (k + 1)).map results) ∧ g.Rebound g' a) ∧
          (∀ e, (∀ j < max 1 g.attempts, ∃ e, results j = .error e) →
            results (max 1 g.attempts - 1) = .error e →
            ls = rounds port ((List.range (max 1 g.attempts)).map results) ∧ g.GaveUp g' e) ∧
          ((∀ ns, .register ns ∉ ms) → g'.board.registry.isEmpty = true)) ∧
        (∀ ms ls g₂, g₁.Lasts ms ls g₂ → (∀ source target, .transition source target ∉ ms) →
          Follows results ls →
          ∃ ms' ls' g', g₁.Lasts (ms ++ ms') (ls ++ ls') g' ∧ g'.control.isRestarting = false ∧
            (∀ m ∈ ms', m.isOfRebind = true) ∧ Follows results (ls ++ ls'))) := by
  refine ⟨fun hphase => ?_, fun hphase results hbeat => ?_⟩
  · cases hbegins with
    | called control outside =>
        obtain ⟨hbegin, hcoordinator⟩ := beginRebind_refused port outside hphase
        refine ⟨g.beginRebind port, by simp [Gateway.step, control], ?_⟩
        rw [hbegin]
        exact ⟨rfl, rfl, rfl, rfl, rfl, rfl, rfl, hcoordinator⟩
    | noticed _ _ phase =>
        rw [phase] at hphase
        rcases hphase with hphase | hphase <;> cases hphase
  · obtain ⟨hstep, hunder, hsame, hcare⟩ := underway_of_begins hbegins hphase
    refine ⟨_, hstep, hunder.isRestarting, fun ms ls g' hlasts hleft hms hfollows => ?_,
      fun ms ls g₂ hlasts hms hfollows => ?_⟩
    · have hended : g.Concluded port ls g' := by
        rcases hunder.lasts hlasts hms with ⟨rs, hstill⟩ | hended
        · rw [hstill.isRestarting] at hleft
          cases hleft
        · exact hended
      refine ⟨fun k a => hended.rebound hfollows, fun e => hended.givenUp hfollows,
        fun hown => ?_⟩
      have hvacant : g'.board.Vacant := hlasts.vacant hcare hown hended.left.2
      exact beq_iff_eq.mpr hvacant.nobody
    · exact hunder.exists_end hlasts hms hfollows fun e he => hbeat e (hsame ▸ he)

/-- The first attempt of a rebind finds the port taken, and the second one succeeds. -/
def secondTime : Nat → BindResult
  | 0 => .error (.bind smallAddress .inUse)
  | _ => .ok smallAddress

/-- A rebind that waits twice. -/
theorem rebind_by_laps_second_time :
    ∃ g g₁ ms ls g', small.steps [.start 8080, .bound (.ok smallAddress)] = some g ∧
      g.step (.rebind 8080) = some g₁ ∧ g₁.Lasts ms ls g' ∧
      ls = [.delay, .attempt 8080 (secondTime 0), .delay, .attempt 8080 (secondTime 1)] ∧
      g'.control = .ready ∧ g'.answer = some (.ok (some smallAddress)) ∧
      g'.listener = some smallAddress ∧ g'.address = some smallAddress ∧
      g'.board.coordinator.phase = .idle ∧ g'.board.coordinator.completed = 1 ∧
      g'.board.registry.isEmpty = true := by
  have hmain : ∃ g, small.steps [.start 8080, .bound (.ok smallAddress)] = some g ∧
      g.Begins 8080 (.rebind 8080) ∧ g.board.coordinator.phase = .idle ∧ g.running = false ∧
      g.attempts = 3 ∧ g.board.coordinator.completed = 0 ∧
      g.board.heartbeat.validate = .ok () :=
    ⟨_, rfl, .called rfl rfl, rfl, rfl, rfl, rfl, rfl⟩
  obtain ⟨g, hrun, hbegins, hphase, houtside, hattempts, hcompleted, hbeat⟩ := hmain
  obtain ⟨g₁, hstep, -, hends, hcan⟩ := (rebind_by_laps hbegins).2 (.inl hphase) secondTime
    fun e he => by cases hbeat.symm.trans he
  obtain ⟨ms, ls, g', hlasts, hleft, hown, hfollows⟩ :=
    hcan [] [] g₁ .refl (fun _ _ => List.not_mem_nil) fun _ _ h => by cases h
  have hms : ∀ m ∈ ms, (∀ source target, m ≠ .transition source target) ∧ ∀ ns, m ≠ .register ns := by
    intro m hm
    have hm := hown m hm
    constructor
    · rintro source target rfl
      cases hm
    · rintro ns rfl
      cases hm
  obtain ⟨hbound, -, hempty⟩ := hends ms ls g' hlasts hleft
    (fun source target hm => (hms _ hm).1 _ _ rfl) hfollows
  obtain ⟨hls, hrebound⟩ := hbound 1 smallAddress (by rw [hattempts]; decide) rfl
    fun j hj => ⟨.bind smallAddress .inUse, by rw [Nat.lt_one_iff.mp hj]; rfl⟩
  have hreturned : g'.control = .ready ∧ g'.answer = some (.ok (some smallAddress)) := by
    have h := hrebound.returned
    unfold HasReturned at h
    rwa [houtside] at h
  refine ⟨g, g₁, ms, ls, g', hrun, hstep, hlasts, hls, hreturned.1, hreturned.2, hrebound.listener,
    hrebound.address, hrebound.phase, ?_, hempty fun ns hm => (hms _ hm).2 ns rfl⟩
  rw [hrebound.completed, hcompleted]
  rfl

end Gateway

end SocketGateway
