import SocketGateway.Gateway.Step
import SocketGateway.Proofs.Sessions

/-!
# Moves and runs

A move of a gateway is either a deed that somebody else does on its switchboard, or a turn of the
supervisor. `Turn` says what a turn can be, with one rule for each kind of it. Whatever the move,
the switchboard is brought on by deeds alone: by the one that the move is, or by those few that the
supervisor does. So a property that these deeds keep holds in every state of every run.
-/

namespace SocketGateway

open SocketGateway.Net (SocketAddress)
open SocketGateway.Restart (Phase)

/-! ## Deeds of moves -/

def Move.deed? : Move → Option Deed
  | .accept peer => some (.accept peer)
  | .session now i cue => some (.session now i cue)
  | .abort i => some (.cutOff i .aborted)
  | .breakDown i => some (.cutOff i .panicked)
  | .request => some .request
  | .transition source target => some (.transition source target)
  | .drain code reason => some (.drain code reason)
  | .emit s name args => some (.emit s name args)
  | .close s reason => some (.close s reason)
  | .register ns => some (.register ns)
  | _ => none

theorem Move.eq_accept {m : Move} {peer : SocketAddress} (h : m.deed? = some (.accept peer)) :
    m = .accept peer := by
  cases m <;> cases h
  rfl

theorem Move.eq_register {m : Move} {ns : Namespace} (h : m.deed? = some (.register ns)) :
    m = .register ns := by
  cases m <;> cases h
  rfl

theorem Move.eq_drain {m : Move} {code : Wire.CloseCode} {reason : String}
    (h : m.deed? = some (.drain code reason)) : m = .drain code reason := by
  cases m <;> cases h
  rfl

theorem Move.eq_transition {m : Move} {source target : Phase}
    (h : m.deed? = some (.transition source target)) : m = .transition source target := by
  cases m <;> cases h
  rfl

def Move.isRebind : Move → Bool
  | .rebind _ | .noticeRestart => true
  | _ => false

def Deed.isOfSupervisor : Deed → Bool
  | .request | .transition .. | .cutOff _ .aborted => true
  | .drain code reason => decide (code = Wire.CloseCode.away ∧ reason = Gateway.drainReason)
  | _ => false

namespace Switchboard

variable {b b' b'' : Switchboard} {A : Deed → Prop}

inductive Brought (A : Deed → Prop) (b : Switchboard) : Switchboard → Prop
  | refl : Brought A b b
  | tail {b' b'' : Switchboard} {d : Deed} (h : Brought A b b') (kind : A d)
      (done : b'.perform d = some b'') : Brought A b b''

namespace Brought

theorem single {d : Deed} (kind : A d) (done : b.perform d = some b') : Brought A b b' :=
  .tail .refl kind done

theorem trans (h : Brought A b b') (h' : Brought A b' b'') : Brought A b b'' := by
  induction h' with
  | refl => exact h
  | tail _ kind done ih => exact .tail ih kind done

/-- What deeds of a kind keep is kept by any number of them. -/
theorem keeps {P : Switchboard → Prop} (h : Brought A b b')
    (hstep : ∀ d b b', A d → P b → b.perform d = some b' → P b') (hb : P b) : P b' := by
  induction h with
  | refl => exact hb
  | tail _ kind done ih => exact hstep _ _ _ kind ih done

/-- To abort all sessions is to abort one after the other. -/
theorem abortAll (hA : ∀ i, A (.cutOff i .aborted)) : Brought A b b.abortAll := by
  -- a session that has ended cannot be aborted and leaves the board as it is
  have hfold : ∀ (is : List Nat) b', Brought A b b' →
      Brought A b (is.foldl (fun b i => (b.abort i).getD b) b') := by
    intro is
    induction is with
    | nil => exact fun _ h => h
    | cons i is ih =>
        intro b' h
        refine ih _ ?_
        cases habort : b'.abort i with
        | none => simpa [habort] using h
        | some b'' => simpa [habort] using Brought.tail h (hA i) habort
  exact hfold _ b .refl

end Brought

end Switchboard

namespace Gateway

variable {g g' g'' : Gateway} {m : Move} {ms ms' : List Move} {P : Gateway → Prop}
  {e : GatewayError} {port : UInt16} {number : Nat}

/-! ## Turns of the supervisor -/

/-- What the supervisor does at a turn: somebody calls it, an attempt to bind is over, it goes on
with a round of a run or with a stop, a time is up, or it notices that a restart or a shutdown is
wanted. -/
inductive Turn (g : Gateway) : Move → Gateway → Prop
  | unfit {port : UInt16} {e : Config.Error} (control : g.control = .ready)
      (beat : g.board.heartbeat.validate = .error e) :
      Turn g (.start port) (g.giveBack (.error (.config e)))
  | start {port : UInt16} (control : g.control = .ready)
      (beat : g.board.heartbeat.validate = .ok ()) :
      Turn g (.start port) { g with listener := none, control := .binding port .start }
  | stop (control : g.control = .ready) : Turn g .stop (g.beginStop .stop)
  | rebind {port : UInt16} (control : g.control = .ready) :
      Turn g (.rebind port) (g.beginRebind port)
  | run (control : g.control = .ready) : Turn g .run g.beginRun
  | bound {port : UInt16} {a : Attempt} {r : Except GatewayError SocketAddress}
      (control : g.control = .binding port a) : Turn g (.bound r) (g.bindingDone port a r)
  | round (control : g.control = .looping) : Turn g .proceed g.beginRound
  | close {p : StopPurpose} (control : g.control = .stopping p .closing) :
      Turn g .proceed { g with listener := none, control := .stopping p .draining }
  | drain {p : StopPurpose} (control : g.control = .stopping p .draining) :
      Turn g .proceed { g.drainAll with control := .stopping p .grace }
  | graceOver {p : StopPurpose} (control : g.control = .stopping p .grace) :
      Turn g .graceOver { g with control := .stopping p .aborting }
  | sweep {p : StopPurpose} (control : g.control = .stopping p .aborting)
      (gone : g.board.hasLive = false) :
      Turn g .proceed { g.drainAll with control := .stopping p .swept }
  | stopped {p : StopPurpose} (control : g.control = .stopping p .swept) :
      Turn g .proceed (g.afterStop p)
  | firstAttempt {port : UInt16} (control : g.control = .delaying port 1) :
      Turn g .delayOver (g.moveOn .waiting .rebinding fun g => g.attemptAgain port 1)
  | nextAttempt {port : UInt16} {number : Nat} (control : g.control = .delaying port number)
      (next : number ≠ 1) : Turn g .delayOver (g.attemptAgain port number)
  | noticeRestart {a : SocketAddress} (control : g.control = .accepting)
      (phase : g.board.coordinator.phase = .draining) (address : g.address = some a) :
      Turn g .noticeRestart (g.beginRebind a.port)
  | nowhere (control : g.control = .accepting) (address : g.address = none) :
      Turn g .noticeRestart (g.fail .notStarted)
  | shutdown (control : g.control = .accepting) :
      Turn g .shutdown ({ g with log := shutdownRecord :: g.log }.beginStop .shutdown)

theorem turn_of_proceed (h : g.proceed = some g') : Turn g .proceed g' := by
  unfold proceed at h
  split at h
  · rename_i hcontrol
    cases h
    exact .round hcontrol
  · rename_i hcontrol
    cases h
    exact .close hcontrol
  · rename_i hcontrol
    cases h
    exact .drain hcontrol
  · rename_i hcontrol
    split at h
    · cases h
    · rename_i hlive
      cases h
      exact .sweep hcontrol (Bool.eq_false_iff.mpr hlive)
  · rename_i hcontrol
    cases h
    exact .stopped hcontrol
  · cases h

/-- **A move is a deed or a turn.** Streams are accepted only while the supervisor does so, and
sessions are aborted only while it wants that. -/
theorem step_cases (h : g.step m = some g') :
    (∃ d b, m.deed? = some d ∧ g.board.perform d = some b ∧ g' = { g with board := b } ∧
      ∀ peer, d = .accept peer → g.control = .accepting) ∨ (m.deed? = none ∧ Turn g m g') := by
  cases m with
  | start port =>
      right
      refine ⟨rfl, ?_⟩
      simp only [step] at h
      split at h
      · rename_i hcontrol
        unfold attempt at h
        split at h <;> rename_i hattempt <;> cases h
        · split at hattempt <;> rename_i hbeat <;> cases hattempt
          exact .start hcontrol hbeat
        · split at hattempt <;> rename_i hbeat <;> cases hattempt
          exact .unfit hcontrol hbeat
      · cases h
  | stop =>
      right
      refine ⟨rfl, ?_⟩
      simp only [step] at h
      split at h <;> cases h
      exact .stop ‹_›
  | rebind port =>
      right
      refine ⟨rfl, ?_⟩
      simp only [step] at h
      split at h <;> cases h
      exact .rebind ‹_›
  | run =>
      right
      refine ⟨rfl, ?_⟩
      simp only [step] at h
      split at h <;> cases h
      exact .run ‹_›
  | bound r =>
      right
      refine ⟨rfl, ?_⟩
      simp only [step] at h
      split at h <;> cases h
      exact .bound ‹_›
  | proceed => exact .inr ⟨rfl, turn_of_proceed h⟩
  | graceOver =>
      right
      refine ⟨rfl, ?_⟩
      simp only [step] at h
      split at h <;> cases h
      exact .graceOver ‹_›
  | delayOver =>
      right
      refine ⟨rfl, ?_⟩
      simp only [step] at h
      split at h
      · cases h
        exact .firstAttempt ‹_›
      · rename_i hnext hcontrol
        cases h
        exact .nextAttempt hcontrol hnext
      · cases h
  | noticeRestart =>
      right
      refine ⟨rfl, ?_⟩
      simp only [step] at h
      split at h
      · rename_i hcontrol hphase haddress
        cases h
        exact .noticeRestart hcontrol hphase haddress
      · rename_i hcontrol _ haddress
        cases h
        exact .nowhere hcontrol haddress
      · cases h
  | shutdown =>
      right
      refine ⟨rfl, ?_⟩
      simp only [step] at h
      split at h <;> cases h
      exact .shutdown ‹_›
  | accept peer =>
      left
      simp only [step] at h
      split at h <;> cases h
      exact ⟨_, _, rfl, rfl, rfl, fun _ _ => ‹_›⟩
  | session now i cue =>
      obtain ⟨b, hb, rfl⟩ := Option.map_eq_some_iff.mp h
      exact .inl ⟨_, b, rfl, hb, rfl, by simp⟩
  | abort i =>
      left
      simp only [step] at h
      split at h
      · obtain ⟨b, hb, rfl⟩ := Option.map_eq_some_iff.mp h
        exact ⟨_, b, rfl, hb, rfl, by simp⟩
      · cases h
  | breakDown i =>
      obtain ⟨b, hb, rfl⟩ := Option.map_eq_some_iff.mp h
      exact .inl ⟨_, b, rfl, hb, rfl, by simp⟩
  | _ =>
      cases h
      exact .inl ⟨_, _, rfl, rfl, rfl, by simp⟩

/-! ## How a turn ends -/

/-- **Failing** ends a run, or the call that failed. -/
theorem fail_cases (finished : g.running = true → P (g.finish (.error e)))
    (given : g.running = false → P (g.giveBack (.error e))) : P (g.fail e) := by
  unfold fail
  split
  · exact finished ‹_›
  · exact given (Bool.eq_false_iff.mpr ‹_›)

/-- **Moving on** needs the coordinator in the phase that it is to leave. -/
theorem moveOn_cases {source target : Phase} {next : Gateway → Gateway}
    (moved : g.board.coordinator.phase = source → source.next = target →
      P (next { g with board := (g.board.transition source target).2 }))
    (refused : ¬(g.board.coordinator.phase = source ∧ source.next = target) → ∀ e,
      P (g.fail (.invalidTransition e))) : P (g.moveOn source target next) := by
  unfold moveOn Switchboard.transition Restart.Coordinator.transition
  by_cases hlegal : g.board.coordinator.phase = source ∧ source.next = target
  · have h := moved hlegal.1 hlegal.2
    simpa only [Switchboard.transition, Restart.Coordinator.transition, if_pos hlegal] using h
  · simpa only [if_neg hlegal] using refused hlegal _

/-- **A rebind** begins unless a restart is already past its first phase. -/
theorem beginRebind_cases
    (begun : g.board.coordinator.phase = .idle ∨ g.board.coordinator.phase = .draining →
      P ({ g with board := g.board.request.2 }.beginStop (.rebind port)))
    (refused : g.board.coordinator.phase ≠ .idle → g.board.coordinator.phase ≠ .draining → ∀ e,
      P ({ g with board := g.board.request.2 }.fail (.invalidTransition e))) :
    P (g.beginRebind port) := by
  cases hphase : g.board.coordinator.phase <;>
    simp_all [beginRebind, Switchboard.request, Restart.Coordinator.request]

/-- **An attempt that failed** is followed by another one, or by none. -/
theorem attemptFailed_cases (again : P { g with control := .delaying port (number + 1) })
    (last : P (g.fail e)) : P (g.attemptFailed port number e) := by
  unfold attemptFailed
  split
  · exact again
  · exact last

/-- **Another attempt** fails at once if the heartbeat is wrong. -/
theorem attemptAgain_cases
    (begun : g.board.heartbeat.validate = .ok () →
      P { g with listener := none, control := .binding port (.rebind number) })
    (failed : ∀ e, P (g.attemptFailed port number e)) : P (g.attemptAgain port number) := by
  unfold attemptAgain attempt
  cases hbeat : g.board.heartbeat.validate with
  | ok _ => exact begun hbeat
  | error e => exact failed _

/-- **A round of a run** needs a listener. -/
theorem beginRound_cases (round : ∀ a, g.listener = some a → P { g with control := .accepting })
    (none : g.listener = none → P (g.finish (.error .notStarted))) : P g.beginRound := by
  unfold beginRound
  split
  · exact none ‹_›
  · exact round _ ‹_›

/-! ## What a move does to the board -/

variable {A : Deed → Prop}

theorem brought_fail (hA : ∀ d, d.isOfSupervisor = true → d ≠ .request → A d) :
    g.board.Brought A (g.fail e).board :=
  fail_cases (P := fun g' => g.board.Brought A g'.board)
    (fun _ => .abortAll fun _ => hA _ rfl Deed.noConfusion) fun _ => .refl

theorem brought_moveOn {source target : Phase} {next : Gateway → Gateway}
    (hA : ∀ d, d.isOfSupervisor = true → d ≠ .request → A d)
    (hnext : ∀ g : Gateway, g.board.Brought A (next g).board) :
    g.board.Brought A (g.moveOn source target next).board := by
  refine moveOn_cases (P := fun g' => g.board.Brought A g'.board) (fun _ _ => ?_)
    fun _ _ => brought_fail hA
  have hmoved : g.board.Brought A (g.board.transition source target).2 :=
    .single (hA (.transition source target) rfl Deed.noConfusion) rfl
  exact hmoved.trans (hnext { g with board := (g.board.transition source target).2 })

theorem brought_beginRebind (hA : ∀ d, d.isOfSupervisor = true → d ≠ .request → A d)
    (hrequest : A .request) : g.board.Brought A (g.beginRebind port).board := by
  have hrequested : g.board.Brought A g.board.request.2 := .single hrequest rfl
  refine beginRebind_cases (P := fun g' => g.board.Brought A g'.board) (fun _ => hrequested)
    fun _ _ _ => ?_
  exact hrequested.trans (brought_fail (g := { g with board := g.board.request.2 }) hA)

theorem brought_attemptFailed (hA : ∀ d, d.isOfSupervisor = true → d ≠ .request → A d) :
    g.board.Brought A (g.attemptFailed port number e).board :=
  attemptFailed_cases (P := fun g' => g.board.Brought A g'.board) .refl (brought_fail hA)

theorem brought_attemptAgain (hA : ∀ d, d.isOfSupervisor = true → d ≠ .request → A d) :
    g.board.Brought A (g.attemptAgain port number).board :=
  attemptAgain_cases (P := fun g' => g.board.Brought A g'.board) (fun _ => .refl)
    fun _ => brought_attemptFailed hA

theorem brought_bindingDone {a : Attempt} {r : Except GatewayError SocketAddress}
    (hA : ∀ d, d.isOfSupervisor = true → d ≠ .request → A d) :
    g.board.Brought A (g.bindingDone port a r).board := by
  cases a with
  | start => cases r <;> exact .refl
  | rebind number =>
      cases r with
      | error e => exact brought_attemptFailed hA
      | ok address =>
          refine brought_moveOn (g := g.hold address) hA fun g => ?_
          split <;> exact .refl

/-- The supervisor brings the board on by deeds of its own; it asks for a restart only when it is to
rebind. -/
theorem Turn.brought (h : Turn g m g')
    (hA : ∀ d, d.isOfSupervisor = true → d ≠ .request → A d)
    (hrequest : m.isRebind = true → A .request) : g.board.Brought A g'.board := by
  cases h with
  | unfit | start | stop | run | close | graceOver | shutdown => exact .refl
  | drain | sweep =>
      exact .single (hA (.drain Wire.CloseCode.away drainReason) rfl Deed.noConfusion) rfl
  | rebind | noticeRestart => exact brought_beginRebind hA (hrequest rfl)
  | bound => exact brought_bindingDone hA
  | nowhere => exact brought_fail hA
  | round =>
      exact beginRound_cases (P := fun g' => g.board.Brought A g'.board) (fun _ _ => .refl)
        fun _ => .abortAll fun _ => hA _ rfl Deed.noConfusion
  | @stopped p =>
      cases p with
      | stop | shutdown => exact .refl
      | rebind port => exact brought_moveOn hA fun _ => .refl
  | firstAttempt => exact brought_moveOn hA fun _ => brought_attemptAgain hA
  | nextAttempt => exact brought_attemptAgain hA

/-- **The frame of a move.** A move brings the board on by the deed that it is, or by deeds of the
supervisor. -/
theorem brought_step (h : g.step m = some g') :
    g.board.Brought (fun d => m.deed? = some d ∨ d.isOfSupervisor = true) g'.board := by
  rcases step_cases h with ⟨d, b, hd, hb, rfl, -⟩ | ⟨-, hturn⟩
  · exact .single (.inl hd) hb
  · exact hturn.brought (fun _ hd _ => .inr hd) fun _ => .inr rfl

/-! ## Runs -/

theorem steps_cons : g.steps (m :: ms) = (g.step m).bind (·.steps ms) := by
  simp [steps, List.foldlM_cons, Option.bind_eq_bind]

theorem steps_snoc : g.steps (ms ++ [m]) = (g.steps ms).bind (·.step m) := by
  simp [steps, List.foldlM_append, Option.bind_eq_bind]

/-- **Induction over a run.** What each move of a kind keeps is kept by a run of such moves. -/
theorem steps_induction {K : Move → Prop} (h : g.steps ms = some g') (hms : ∀ m ∈ ms, K m)
    (hstep : ∀ g m g', K m → P g → g.step m = some g' → P g') (hg : P g) : P g' := by
  induction ms generalizing g with
  | nil =>
      cases h
      exact hg
  | cons m ms ih =>
      rw [steps_cons, Option.bind_eq_some_iff] at h
      obtain ⟨next, hnext, h⟩ := h
      have hm := hms m List.mem_cons_self
      exact ih h (fun m' hm' => hms m' (List.mem_cons_of_mem m hm')) (hstep g m next hm hg hnext)

/-- A property of boards holds throughout a run if it is kept by the deeds of its moves and by
those of the supervisor. -/
theorem board_of_steps {K : Move → Prop} {P : Switchboard → Prop} (h : g.steps ms = some g')
    (hms : ∀ m ∈ ms, K m)
    (hdeed : ∀ d b b', ((∃ m, K m ∧ m.deed? = some d) ∨ d.isOfSupervisor = true) → P b →
      b.perform d = some b' → P b') (hg : P g.board) : P g'.board := by
  refine steps_induction (P := fun g => P g.board) h hms (fun g m g' hm hg hstep => ?_) hg
  refine (brought_step hstep).keeps (fun d b b' hd => hdeed d b b' ?_) hg
  exact hd.imp_left fun hd => ⟨m, hm, hd⟩

/-! ## A small gateway -/

/-- A gateway that serves the root to four clients, and binds again up to three times. -/
def small : Gateway :=
  fresh (.fresh (.shared ["/"] (.standard "restart")) ⟨25000, 20000⟩ 4) 3

def smallAddress : SocketAddress := ⟨.loopback, 0, 8080⟩

def opening : List Move :=
  [.start 8080, .bound (.ok smallAddress), .run, .proceed, .accept smallAddress]

def joining (i : Nat) : List Move :=
  [.session 0 i (.requested "/"), .session 0 i .wrote, .session 0 i .wrote]

def draining : List Move := [.request, .noticeRestart, .proceed, .proceed]

/-- A session registers before the drain, and another one after it. -/
def straggling : List Move :=
  opening ++ joining 0 ++ [.accept smallAddress, .session 0 1 (.requested "/")] ++ draining ++
    [.session 0 1 .wrote]

end Gateway

end SocketGateway
