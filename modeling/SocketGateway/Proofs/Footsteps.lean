import Mathlib.Data.List.Induction
import SocketGateway.Proofs.Trigger

/-!
# The steps of one session

Among all deeds on a switchboard those of one session are picked out: its footsteps, each with the
board before and after it, from which can be told what the session was asked for, what it wrote, and
what it did to the registry. Whatever other sessions do, and whoever else has hold of a part of the
board, a session stays where it is and its handlers are not called.
-/

namespace SocketGateway

/-! ## Footsteps -/

/-- A step of a session: the board before it, what the session was told, and the board after it. -/
structure Footstep where
  before : Switchboard
  cue : Cue
  after : Switchboard

namespace Footstep

def request? (s : Footstep) : Option String :=
  match s.cue with
  | .requested path => some path
  | _ => none

def attempt? (i : Nat) (s : Footstep) : Option (Writing × Bool) :=
  match s.cue with
  | .wrote => (s.before.pending? i).map (·, true)
  | .writeFailed _ => (s.before.pending? i).map (·, false)
  | _ => none

def Spares (s : Footstep) : Prop := s.after.registry = s.before.registry

def Registers (s : Footstep) (c : Connection) : Prop :=
  s.before.registry.register c = .ok s.after.registry

def Removes (s : Footstep) (c : Connection) : Prop :=
  s.after.registry = (s.before.registry.remove c.id).2

end Footstep

def Deed.isOf (i : Nat) : Deed → Bool
  | .session _ j _ | .cutOff j _ => j = i
  | _ => false

/-- A deed of a session brings it on or cuts it off. -/
theorem Deed.own_cases {deed : Deed} {i : Nat} (h : ¬deed.isOf i = false) :
    (∃ now cue, deed = .session now i cue) ∨ ∃ o, deed = .cutOff i o := by
  cases deed with
  | session now j cue =>
      obtain rfl : j = i := of_decide_eq_true (eq_true_of_ne_false h)
      exact .inl ⟨now, cue, rfl⟩
  | cutOff j o =>
      obtain rfl : j = i := of_decide_eq_true (eq_true_of_ne_false h)
      exact .inr ⟨o, rfl⟩
  | _ => exact absurd rfl h

def requests (steps : List Footstep) : List String := steps.filterMap Footstep.request?

def attempts (i : Nat) (steps : List Footstep) : List (Writing × Bool) :=
  steps.filterMap (Footstep.attempt? i)

section

variable {i : Nat} {steps : List Footstep} {s : Footstep}

theorem requests_snoc : requests (steps ++ [s]) = requests steps ++ s.request?.toList := by
  cases h : s.request? <;> simp [requests, h]

theorem attempts_snoc :
    attempts i (steps ++ [s]) = attempts i steps ++ (s.attempt? i).toList := by
  cases h : s.attempt? i <;> simp [attempts, h]

end

/-! ## The registry along the way -/

/-- The registry was left alone throughout. -/
def Untouched (steps : List Footstep) : Prop := ∀ s ∈ steps, s.Spares

def Registered (c : Connection) (steps : List Footstep) : Prop :=
  ∃ early s late, steps = early ++ s :: late ∧ Untouched early ∧ s.Registers c ∧ Untouched late

/-- A connection was registered, and its id was removed at the end. -/
def CameAndWent (c : Connection) (steps : List Footstep) : Prop :=
  ∃ stay s, steps = stay ++ [s] ∧ Registered c stay ∧ s.Removes c

section

variable {c : Connection} {steps : List Footstep} {s : Footstep}

theorem Untouched.snoc (h : Untouched steps) (hs : s.Spares) : Untouched (steps ++ [s]) := by
  intro s' hs'
  rcases List.mem_append.mp hs' with hold | hnew
  · exact h s' hold
  · rw [List.mem_singleton.mp hnew]
    exact hs

theorem Untouched.registered (h : Untouched steps) (hs : s.Registers c) :
    Registered c (steps ++ [s]) :=
  ⟨steps, s, [], rfl, h, hs, fun _ hnone => by cases hnone⟩

theorem Registered.snoc (h : Registered c steps) (hs : s.Spares) : Registered c (steps ++ [s]) := by
  obtain ⟨early, s', late, rfl, hearly, hs', hlate⟩ := h
  exact ⟨early, s', late ++ [s], by simp, hearly, hs', hlate.snoc hs⟩

end

namespace Switchboard

variable {b b' b'' : Switchboard} {now i j : Nat} {cue : Cue} {c : Connection} {st st' : Stage}
  {hs : HandlerSet} {k : CallKind} {o : Outcome} {d : Drive} {deed : Deed} {ds ds' : List Deed}

/-! ## What every move of a session is made of -/

section Keeps

variable {P : Switchboard → Prop}

/-- What is kept when a session enters a stage, has a handler called, or changes registry and
mailboxes. -/
structure Kept (i : Nat) (P : Switchboard → Prop) : Prop where
  enter : ∀ b st, P b → P (b.enter i st)
  call : ∀ b c hs k, P b → P (b.call i c hs k).1
  store : ∀ b registry rooms, P b → P { b with registry := registry, rooms := rooms }

theorem Kept.exit (h : Kept i P) (hb : P b) : P (b.exit i c o) :=
  h.enter _ _ (h.store _ _ _ hb)

theorem Kept.settle (h : Kept i P) (hb : P b) : P (b.settle i c hs d) :=
  settle_cases (fun _ _ _ _ => h.exit (h.call _ _ _ _ hb)) fun _ => h.enter _ _ hb

theorem Kept.wake {occasion : Occasion} (h : Kept i P) (hb : P b) :
    P (b.wake i now c hs d occasion) :=
  wake_cases (fun _ => h.settle hb) (fun _ _ _ _ => h.settle (h.call _ _ _ _ hb))
    fun _ _ _ _ => h.exit (h.call _ _ _ _ hb)

/-- **A move of a session keeps what its parts keep.** -/
theorem Kept.sessionMove (h : Kept i P) (hmove : SessionMove b now i b') (hb : P b) : P b' := by
  cases hmove with
  | upgrade => exact h.enter _ _ hb
  | join =>
      exact join_cases (fun _ _ => h.enter _ _ (h.store _ _ _ hb))
        fun _ _ => h.enter _ _ (h.store _ _ _ hb)
  | begin =>
      exact begin_cases (fun _ _ => h.enter _ _ (h.call _ _ _ _ hb))
        fun _ => h.exit (h.call _ _ _ _ hb)
  | ungreeted => exact h.exit hb
  | written => exact h.settle hb
  | woken => exact h.wake hb
  | taken => exact h.wake (h.store _ _ _ hb)

theorem Kept.cutOff (h : Kept i P) (hcut : b.cutOff i o = some b') (hb : P b) : P b' := by
  obtain ⟨st, -, -, ⟨c, -, rfl⟩ | ⟨-, rfl⟩⟩ := cutOff_cases hcut
  · exact h.exit hb
  · exact h.enter _ _ hb

end Keeps

/-! ## What does not change -/

structure Fixed (b b' : Switchboard) : Prop where
  router : b'.router = b.router
  heartbeat : b'.heartbeat = b.heartbeat

theorem Fixed.trans (h : b.Fixed b') (h' : b'.Fixed b'') : b.Fixed b'' :=
  ⟨h'.router.trans h.router, h'.heartbeat.trans h.heartbeat⟩

/-- **Nothing happens to a session**: it is where it was, and its handlers were not called. -/
structure Spared (i : Nat) (b b' : Switchboard) : Prop extends b.Fixed b' where
  stage : b'.stage? i = b.stage? i
  calls : b'.callsOf i = b.callsOf i

theorem Spared.of_same (hrouter : b'.router = b.router) (hheartbeat : b'.heartbeat = b.heartbeat)
    (hsessions : b'.sessions = b.sessions) (hcalls : b'.calls = b.calls) : Spared i b b' :=
  ⟨⟨hrouter, hheartbeat⟩, stage?_congr hsessions, callsOf_congr hcalls⟩

theorem kept_fixed : Kept i b.Fixed where
  enter _ _ h := ⟨h.router, h.heartbeat⟩
  call _ _ _ _ h := ⟨aside_call.router.trans h.router, aside_call.heartbeat.trans h.heartbeat⟩
  store _ _ _ h := ⟨h.router, h.heartbeat⟩

theorem kept_spared (hij : i ≠ j) : Kept i (Spared j b) where
  enter _ _ h :=
    ⟨⟨h.router, h.heartbeat⟩, (stage?_enter_of_ne hij).trans h.stage, h.calls⟩
  call _ _ _ _ h := by
    refine ⟨⟨aside_call.router.trans h.router, aside_call.heartbeat.trans h.heartbeat⟩, ?_, ?_⟩
    · exact (stage?_congr aside_call.sessions).trans h.stage
    · exact (callsOf_call_of_ne hij).trans h.calls
  store _ _ _ h := ⟨⟨h.router, h.heartbeat⟩, h.stage, h.calls⟩

theorem fixed_of_advance (h : b.advance now i cue = some b') : b.Fixed b' :=
  kept_fixed.sessionMove (sessionMove_of_advance h) ⟨rfl, rfl⟩

/-- **A deed spares every session that it is not a deed of**. -/
theorem spared_of_perform (hst : b.stage? i = some st) (h : b.perform deed = some b')
    (hother : deed.isOf i = false) : Spared i b b' := by
  have hsame : Spared i b b := ⟨⟨rfl, rfl⟩, rfl, rfl⟩
  cases deed with
  | accept peer =>
      cases h
      -- the new session gets a number that none had
      have hold : i ≠ b.sessions.length := by
        rintro rfl
        simp [stage?] at hst
      refine ⟨⟨rfl, rfl⟩, ?_, rfl⟩
      rw [stage?_accept, if_neg hold]
  | session now j cue =>
      have hji : j ≠ i := of_decide_eq_false hother
      exact (kept_spared hji).sessionMove (sessionMove_of_advance h) hsame
  | cutOff j o =>
      have hji : j ≠ i := of_decide_eq_false hother
      exact (kept_spared hji).cutOff h hsame
  | register ns =>
      cases h
      exact registerLoose_cases (P := Spared i b) (fun _ => .of_same rfl rfl rfl rfl)
        (.of_same rfl rfl rfl rfl)
  | _ =>
      cases h
      exact .of_same rfl rfl rfl rfl

/-! ## Walks -/

/-- **Induction along a run**: what holds at its beginning, and is carried on by every deed that comes
after others, holds at its end. -/
theorem performAll_induction {P : List Deed → Switchboard → Prop}
    (hrun : b.performAll ds = some b') (start : P [] b)
    (step : ∀ ds mid deed next, b.performAll ds = some mid → P ds mid →
      mid.perform deed = some next → P (ds ++ [deed]) next) : P ds b' := by
  induction ds using List.reverseRecOn generalizing b' with
  | nil =>
      cases hrun
      exact start
  | append_singleton ds deed ih =>
      rw [performAll_append, Option.bind_eq_some_iff] at hrun
      obtain ⟨mid, hmid, hlast⟩ := hrun
      rw [performAll_cons, Option.bind_eq_some_iff] at hlast
      obtain ⟨_, hdeed, heq⟩ := hlast
      cases heq
      exact step ds mid deed _ hmid (ih hmid) hdeed

def footstep? (i : Nat) (b b' : Switchboard) : Deed → Option Footstep
  | .session _ j cue => if j = i then some ⟨b, cue, b'⟩ else none
  | _ => none

def footsteps (i : Nat) : Switchboard → List Deed → List Footstep
  | _, [] => []
  | b, deed :: ds =>
    match b.perform deed with
    | some b' => (footstep? i b b' deed).toList ++ footsteps i b' ds
    | none => []

theorem footsteps_cons (h : b.perform deed = some b') :
    b.footsteps i (deed :: ds) = (footstep? i b b' deed).toList ++ b'.footsteps i ds := by
  simp [footsteps, h]

theorem footsteps_append (h : b.performAll ds = some b') :
    b.footsteps i (ds ++ ds') = b.footsteps i ds ++ b'.footsteps i ds' := by
  induction ds generalizing b with
  | nil =>
      cases h
      rfl
  | cons deed ds ih =>
      rw [performAll_cons, Option.bind_eq_some_iff] at h
      obtain ⟨next, hnext, hrest⟩ := h
      rw [List.cons_append, footsteps_cons hnext, footsteps_cons hnext, ih hrest,
        List.append_assoc]

theorem footsteps_snoc (h : b.performAll ds = some b') (hdeed : b'.perform deed = some b'') :
    b.footsteps i (ds ++ [deed]) = b.footsteps i ds ++ (footstep? i b' b'' deed).toList := by
  rw [footsteps_append h, footsteps_cons hdeed, footsteps, List.append_nil]

theorem footstep?_of_other (h : deed.isOf i = false) : footstep? i b b' deed = none := by
  cases deed with
  | session now j cue => exact if_neg (of_decide_eq_false h)
  | _ => rfl

end Switchboard

end SocketGateway
