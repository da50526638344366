import SocketGateway.Proofs.Moves

/-!
# The calls of a session

What the handlers of a session are called for follows its stages: nothing until the client was
greeted, then the new client, then its events, and at the end the client that has gone. With
handlers that never break down every session that returns has all of these calls. A session that is
aborted has no last call, though its client may have been announced.
-/

namespace SocketGateway

/-! ## Shapes -/

def CallKind.isEvent : CallKind → Bool
  | .event .. => true
  | _ => false

/-- A new client, and then its events. -/
def IsBegun (ks : List CallKind) : Prop :=
  ∃ es : List CallKind, (∀ k ∈ es, k.isEvent = true) ∧ ks = .connect :: es

/-- A new client, its events, and last the client that has gone. -/
def IsComplete (ks : List CallKind) : Prop :=
  ∃ (es : List CallKind) (reason : DisconnectReason), (∀ k ∈ es, k.isEvent = true) ∧
    ks = .connect :: es ++ [.disconnect reason]

theorem isBegun_connect : IsBegun [.connect] := ⟨[], by simp, rfl⟩

theorem IsBegun.event {ks : List CallKind} {name : String} {args : List Json.Value}
    (h : IsBegun ks) : IsBegun (ks ++ [.event name args]) := by
  obtain ⟨es, hes, rfl⟩ := h
  refine ⟨es ++ [.event name args], fun k hk => ?_, rfl⟩
  rcases List.mem_append.mp hk with hk | hk
  · exact hes k hk
  · rw [List.mem_singleton.mp hk]
    rfl

theorem IsBegun.disconnect {ks : List CallKind} {reason : DisconnectReason} (h : IsBegun ks) :
    IsComplete (ks ++ [.disconnect reason]) := by
  obtain ⟨es, hes, rfl⟩ := h
  exact ⟨es, reason, hes, rfl⟩

/-- What has only begun is not complete. -/
theorem IsBegun.not_complete {ks : List CallKind} (h : IsBegun ks) : ¬IsComplete ks := by
  obtain ⟨es, hes, rfl⟩ := h
  rintro ⟨es', reason, -, heq⟩
  have hmem : CallKind.disconnect reason ∈ es := by
    rw [List.cons_append, List.cons.injEq] at heq
    rw [heq.2]
    exact List.mem_append_right es' (List.mem_singleton.mpr rfl)
  cases hes _ hmem

/-- What the handlers of a session were called for before it is at a stage. -/
def Stage.admits : Stage → List CallKind → Prop
  | .open .., ks => IsBegun ks
  | .ended (.returned (.ok ())), ks => IsComplete ks
  | .ended (.returned (.error _)), ks => ks = []
  | .ended _, ks => ks = [] ∨ IsBegun ks
  | _, ks => ks = []

theorem Stage.admits_iff_of_early {st : Stage} {ks : List CallKind} (h : st.isEarly = true) :
    st.admits ks ↔ ks = [] := by
  cases st with
  | «open» => cases h
  | ended o =>
      cases o with
      | returned r =>
          cases r with
          | ok _ => cases h
          | error e => exact Iff.rfl
      | panicked | aborted => cases h
  | _ => exact Iff.rfl

/-- A session that is cut off keeps the calls that it had. -/
theorem Stage.admits_of_cutOff {st : Stage} {ks : List CallKind} {o : Outcome}
    (h : st.admits ks) (hlive : st.isLive = true) (ho : o = .aborted ∨ o = .panicked) :
    (Stage.ended o).admits ks := by
  have hkept : ks = [] ∨ IsBegun ks := by
    cases st with
    | «open» => exact .inr h
    | ended => cases hlive
    | _ => exact .inl h
  rcases ho with rfl | rfl
  · exact hkept
  · exact hkept

namespace Switchboard

variable {b b' : Switchboard} {now i j : Nat} {cue : Cue} {c : Connection} {st st' : Stage}
  {hs : HandlerSet} {k : CallKind} {o : Outcome} {d : Drive}

/-! ## Calls by session -/

/-- **What the handlers of a session were called for**, in the order of the calls. -/
def callsOf (b : Switchboard) (i : Nat) : List CallKind :=
  ((b.calls.filter fun call => call.session == i).map (·.kind)).reverse

theorem callsOf_congr (h : b'.calls = b.calls) : b'.callsOf i = b.callsOf i := by
  rw [callsOf, callsOf, h]

theorem callsOf_call_self : (b.call i c hs k).1.callsOf i = b.callsOf i ++ [k] := by
  simp [callsOf, calls_call]

theorem callsOf_call_of_ne (h : i ≠ j) : (b.call i c hs k).1.callsOf j = b.callsOf j := by
  simp [callsOf, calls_call, h]

/-! ## The invariant -/

/-- **The calls of every session are those of its stage**, and all handlers are calm. -/
structure Conducted (b : Switchboard) : Prop where
  calm : ∀ path ns hs, b.router.resolve path = some (ns, hs) → hs.IsCalm
  served : ∀ i st hs, b.stage? i = some st → st.handlers? = some hs → hs.IsCalm
  admitted : ∀ i st, b.stage? i = some st → st.admits (b.callsOf i)
  unborn : ∀ i, b.stage? i = none → b.callsOf i = []

namespace Conducted

theorem fresh {router : Router HandlerSet} {beat : Config.Heartbeat} {limit : Nat}
    (hcalm : ∀ path ns hs, router.resolve path = some (ns, hs) → hs.IsCalm) :
    (Switchboard.fresh router beat limit).Conducted where
  calm := hcalm
  served i st hs h := by simp [Switchboard.fresh, stage?] at h
  admitted i st h := by simp [Switchboard.fresh, stage?] at h
  unborn _ _ := rfl

/-- Nothing happens to the sessions and their calls. -/
theorem of_same (h : b.Conducted) (hrouter : b'.router = b.router)
    (hsessions : b'.sessions = b.sessions) (hcalls : b'.calls = b.calls) : b'.Conducted := by
  constructor
  · rw [hrouter]
    exact h.calm
  · intro i st hs hst
    rw [stage?_congr hsessions] at hst
    exact h.served i st hs hst
  · intro i st hst
    rw [stage?_congr hsessions] at hst
    rw [callsOf_congr hcalls]
    exact h.admitted i st hst
  · intro i hst
    rw [stage?_congr hsessions] at hst
    rw [callsOf_congr hcalls]
    exact h.unborn i hst

/-- **The frame of the invariant**: one session enters a stage that admits its calls. -/
theorem of_stage (h : b.Conducted) (hrouter : b'.router = b.router)
    (hst' : b'.stage? i = some st')
    (hothers : ∀ j, i ≠ j → b'.stage? j = b.stage? j ∧ b'.callsOf j = b.callsOf j)
    (hserved : ∀ hs, st'.handlers? = some hs → hs.IsCalm)
    (hadmitted : st'.admits (b'.callsOf i)) : b'.Conducted := by
  constructor
  · rw [hrouter]
    exact h.calm
  · intro j st hs hst hhs
    by_cases hij : i = j
    · subst hij
      cases hst'.symm.trans hst
      exact hserved hs hhs
    · rw [(hothers j hij).1] at hst
      exact h.served j st hs hst hhs
  · intro j st hst
    by_cases hij : i = j
    · subst hij
      cases hst'.symm.trans hst
      exact hadmitted
    · rw [(hothers j hij).1] at hst
      rw [(hothers j hij).2]
      exact h.admitted j st hst
  · intro j hst
    by_cases hij : i = j
    · subst hij
      cases hst'.symm.trans hst
    · rw [(hothers j hij).1] at hst
      rw [(hothers j hij).2]
      exact h.unborn j hst

/-- A session enters a stage without a call. -/
theorem enter (h : b.Conducted) (hst : b.stage? i = some st)
    (hserved : ∀ hs, st'.handlers? = some hs → hs.IsCalm) (hadmitted : st'.admits (b.callsOf i)) :
    (b.enter i st').Conducted :=
  h.of_stage rfl (stage?_enter_self hst) (fun _ hij => ⟨stage?_enter_of_ne hij, rfl⟩) hserved
    hadmitted

/-- A session enters a stage after a call. -/
theorem enter_after_call (h : b.Conducted) (hst : b.stage? i = some st)
    (hserved : ∀ hs, st'.handlers? = some hs → hs.IsCalm)
    (hadmitted : st'.admits (b.callsOf i ++ [k])) :
    ((b.call i c hs k).1.enter i st').Conducted := by
  have hsessions : (b.call i c hs k).1.sessions = b.sessions := aside_call.sessions
  have hself : ((b.call i c hs k).1.enter i st').stage? i = some st' :=
    stage?_enter_self ((stage?_congr hsessions).trans hst)
  refine h.of_stage aside_call.router hself (fun j hij => ⟨?_, ?_⟩) hserved ?_
  · exact (stage?_enter_of_ne hij).trans (stage?_congr hsessions)
  · exact callsOf_call_of_ne hij
  · show st'.admits ((b.call i c hs k).1.callsOf i)
    rw [callsOf_call_self]
    exact hadmitted

/-- A session exits, which is no call. -/
theorem exit (h : b.Conducted) (hst : b.stage? i = some st)
    (hadmitted : (Stage.ended o).admits (b.callsOf i)) : (b.exit i c o).Conducted :=
  enter (b := b.leave c) (h.of_same rfl rfl rfl) hst (fun _ h => by cases h) hadmitted

theorem exit_after_call (h : b.Conducted) (hst : b.stage? i = some st)
    (hadmitted : (Stage.ended o).admits (b.callsOf i ++ [k])) :
    ((b.call i c hs k).1.exit i c o).Conducted := by
  have hentered : ((b.call i c hs k).1.enter i (.ended o)).Conducted :=
    h.enter_after_call hst (fun _ h => by cases h) hadmitted
  exact hentered.of_same rfl rfl rfl

/-! ### Steps that keep it -/

theorem settle (h : b.Conducted) (hst : b.stage? i = some (.open c hs d)) {d' : Drive} :
    (b.settle i c hs d').Conducted := by
  have hbegun : IsBegun (b.callsOf i) := h.admitted i _ hst
  have hcalm : hs.IsCalm := h.served i _ hs hst rfl
  refine settle_cases (fun reason _ o ho => ?_) fun _ => ?_
  · -- a calm handler lets the session return
    rw [call_of_calm hcalm] at ho
    subst ho
    exact h.exit_after_call hst hbegun.disconnect
  · refine h.enter hst ?_ hbegun
    rintro _ ⟨⟩
    exact hcalm

theorem wake {occasion : Occasion} (h : b.Conducted) (hst : b.stage? i = some (.open c hs d)) :
    (b.wake i now c hs d occasion).Conducted := by
  have hbegun : IsBegun (b.callsOf i) := h.admitted i _ hst
  have hcalm : hs.IsCalm := h.served i _ hs hst rfl
  refine wake_cases (fun _ => h.settle hst) (fun name args _ _ => ?_) fun name args _ hbroken => ?_
  · -- the call is made while the connection is open, and only then does it settle
    have hsessions : (b.call i c hs (.event name args)).1.sessions = b.sessions :=
      aside_call.sessions
    have hcalled : (b.call i c hs (.event name args)).1.Conducted := by
      refine h.of_stage aside_call.router ((stage?_congr hsessions).trans hst)
        (fun j hij => ⟨stage?_congr hsessions, callsOf_call_of_ne hij⟩) ?_ ?_
      · rintro _ ⟨⟩
        exact hcalm
      · rw [callsOf_call_self]
        exact hbegun.event
    exact hcalled.settle ((stage?_congr hsessions).trans hst)
  · rw [call_of_calm hcalm] at hbroken
    cases hbroken

theorem begin (h : b.Conducted) (hst : b.stage? i = some (.greeting c hs)) :
    (b.begin i now c hs).Conducted := by
  have hnone : b.callsOf i = [] := h.admitted i _ hst
  have hbegun : IsBegun (b.callsOf i ++ [.connect]) := by
    rw [hnone]
    exact isBegun_connect
  refine begin_cases (fun _ _ => ?_) fun _ => ?_
  · refine h.enter_after_call hst ?_ hbegun
    rintro _ ⟨⟩
    exact h.served i _ hs hst rfl
  · exact h.exit_after_call hst (.inr hbegun)

theorem join {ns : Namespace} (h : b.Conducted) (hst : b.stage? i = some (.granting ns hs)) :
    (b.join i ns hs).Conducted := by
  have hnone : b.callsOf i = [] := h.admitted i _ hst
  refine join_cases (fun registry _ => ?_) fun e _ => ?_
  · refine enter (b := { b with rooms := b.rooms.create, registry := registry })
      (h.of_same rfl rfl rfl) hst ?_ hnone
    rintro _ ⟨⟩
    exact h.served i _ hs hst rfl
  · refine enter (b := { b with rooms := b.rooms.create.hangUp b.rooms.next })
      (h.of_same rfl rfl rfl) hst ?_ hnone
    intro _ hhs
    cases hhs

theorem sessionMove (h : b.Conducted) (hmove : SessionMove b now i b') : b'.Conducted := by
  cases hmove with
  | upgrade stage _ _ early _ early' served =>
      refine h.enter stage (fun hs hhs => ?_) ?_
      · obtain ⟨path, ns, hroute⟩ := served hs hhs
        exact h.calm path ns hs hroute
      · rw [Stage.admits_iff_of_early early']
        exact (Stage.admits_iff_of_early early).mp (h.admitted i _ stage)
  | join stage => exact h.join stage
  | begin stage => exact h.begin stage
  | ungreeted stage e =>
      have hnone : b.callsOf i = [] := h.admitted i _ stage
      exact h.exit stage hnone
  | written stage => exact h.settle stage
  | woken stage => exact h.wake stage
  | @taken _ _ _ _ rooms stage =>
      exact wake (b := { b with rooms := rooms }) (h.of_same rfl rfl rfl) stage

theorem cutOff (h : b.Conducted) (hcut : b.cutOff i o = some b')
    (ho : o = .aborted ∨ o = .panicked) : b'.Conducted := by
  obtain ⟨st, hst, hlive, hend⟩ := cutOff_cases hcut
  have hadmitted : (Stage.ended o).admits (b.callsOf i) :=
    Stage.admits_of_cutOff (h.admitted i st hst) hlive ho
  rcases hend with ⟨c, -, rfl⟩ | ⟨-, rfl⟩
  · exact h.exit hst hadmitted
  · exact h.enter hst (fun _ hhs => by cases hhs) hadmitted

/-- A stream that was accepted has had no calls. -/
theorem accept {peer : Net.SocketAddress} (h : b.Conducted) : (b.accept peer).Conducted := by
  have hnew : b.stage? b.sessions.length = none := by simp [stage?]
  have hself : (b.accept peer).stage? b.sessions.length = some .handshaking := by
    rw [stage?_accept, if_pos rfl]
  refine h.of_stage rfl hself (fun j hij => ⟨?_, rfl⟩) (fun _ hhs => by cases hhs)
    (h.unborn _ hnew)
  rw [stage?_accept, if_neg (Ne.symm hij)]

/-- **Every deed keeps the calls in step with the stages.** -/
theorem perform {deed : Deed} (h : b.Conducted) (hdeed : b.perform deed = some b')
    (hcut : ∀ i o, deed = .cutOff i o → o = .aborted ∨ o = .panicked) : b'.Conducted := by
  cases deed with
  | accept peer =>
      cases hdeed
      exact h.accept
  | session now i cue => exact h.sessionMove (sessionMove_of_advance hdeed)
  | cutOff i o => exact h.cutOff hdeed (hcut i o rfl)
  | register ns =>
      cases hdeed
      exact registerLoose_cases (P := Conducted) (fun _ => h.of_same rfl rfl rfl)
        (h.of_same rfl rfl rfl)
  | _ =>
      cases hdeed
      exact h.of_same rfl rfl rfl

end Conducted

end Switchboard

/-! ## Calm gateways -/

/-- The standard handlers never break down. -/
theorem HandlerSet.isCalm_standard {event : String} : (standard event).IsCalm := by
  intro k hk
  cases k with
  | event name args =>
      simp only [reactions, standard] at hk
      split at hk <;> simp at hk
  | _ => cases hk

/-- A router that was set up with one handler set has no other. -/
theorem Router.resolve_shared {η : Type} {paths : List String} {handlers handlers' : η}
    {path : String} {ns : Namespace}
    (h : (shared paths handlers).resolve path = some (ns, handlers')) : handlers' = handlers := by
  have hfold : ∀ (r : Router η), (∀ n a, r.routes.find? n = some a → a = handlers) →
      ∀ n a, (paths.foldl (fun r path => r.register path handlers) r).routes.find? n = some a →
        a = handlers := by
    -- the fold goes on from any router that has no other handlers
    clear h
    induction paths with
    | nil => exact fun _ hr => hr
    | cons p ps ih =>
        intro r hr
        refine ih (r.register p handlers) fun n a ha => ?_
        rw [register, Table.find?_insert] at ha
        split at ha
        · exact (Option.some.inj ha).symm
        · exact hr n a ha
  obtain ⟨a, ha, heq⟩ := Option.map_eq_some_iff.mp h
  cases heq
  exact hfold empty (fun n a ha => by cases ha) _ _ ha

/-! ## The main result -/

namespace Gateway

variable {router : Router HandlerSet} {beat : Config.Heartbeat} {limit attempts : Nat}
  {ms : List Move} {g : Gateway}

theorem conducted_of_steps {g' : Gateway} (h : g.steps ms = some g') (hg : g.board.Conducted) :
    g'.board.Conducted := by
  refine board_of_steps (K := fun _ => True) h (fun _ _ => trivial) ?_ hg
  intro d b b' hd hb hdeed
  refine hb.perform hdeed ?_
  rintro i o rfl
  rcases hd with ⟨m, -, hd⟩ | hd
  · cases m <;> cases hd
    · exact .inl rfl
    · exact .inr rfl
  · cases o with
    | aborted => exact .inl rfl
    | returned | panicked => cases hd

/-- **A session has its last call exactly if it returns.** With handlers that never break down, the
handlers of a session are called for its client first, once, then for events, and last, once, for the
client that has gone. When a session has ended whose client was announced, that last call was made
if the session returned by itself, and was not made if it was cut off. -/
theorem complete_iff_returned
    (hcalm : ∀ path ns hs, router.resolve path = some (ns, hs) → hs.IsCalm)
    (hrun : (fresh (.fresh router beat limit) attempts).steps ms = some g) (i : Nat) :
    (g.board.callsOf i = [] ∨ IsBegun (g.board.callsOf i) ∨ IsComplete (g.board.callsOf i)) ∧
    ∀ o, g.board.stage? i = some (.ended o) → .connect ∈ g.board.callsOf i →
      (IsComplete (g.board.callsOf i) ↔ ∃ r, o = .returned r) := by
  have hconducted : g.board.Conducted := conducted_of_steps hrun (.fresh hcalm)
  refine ⟨?_, fun o ho hconnect => ?_⟩
  · cases hst : g.board.stage? i with
    | none => exact .inl (hconducted.unborn i hst)
    | some st =>
        have hadmitted := hconducted.admitted i st hst
        unfold Stage.admits at hadmitted
        split at hadmitted
        · exact .inr (.inl hadmitted)
        · exact .inr (.inr hadmitted)
        · exact .inl hadmitted
        · exact hadmitted.imp_right .inl
        · exact .inl hadmitted
  · have hadmitted := hconducted.admitted i _ ho
    have hne : g.board.callsOf i ≠ [] := List.ne_nil_of_mem hconnect
    cases o with
    | returned r =>
        cases r with
        | ok _ => exact ⟨fun _ => ⟨_, rfl⟩, fun _ => hadmitted⟩
        | error e => exact absurd hadmitted hne
    | panicked | aborted =>
        have hbegun : IsBegun (g.board.callsOf i) := hadmitted.resolve_left hne
        refine ⟨fun h => absurd h hbegun.not_complete, ?_⟩
        rintro ⟨r, hr⟩
        cases hr

theorem calm_small (path : String) (ns : Namespace) (hs : HandlerSet)
    (h : small.board.router.resolve path = some (ns, hs)) : hs.IsCalm := by
  rw [Router.resolve_shared h]
  exact HandlerSet.isCalm_standard

/-- A session whose client leaves has all of its calls. -/
theorem complete_iff_returned_leaving :
    ∃ g, small.steps (opening ++ joining 0 ++ [.session 7 0 .streamEnded]) = some g ∧
      IsComplete (g.board.callsOf 0) := by
  have hmain : ∃ g, small.steps (opening ++ joining 0 ++ [.session 7 0 .streamEnded]) = some g ∧
      g.board.stage? 0 = some (.ended (.returned (.ok ()))) ∧
      g.board.callsOf 0 = [.connect, .disconnect .clientClosed] := ⟨_, rfl, rfl, rfl⟩
  obtain ⟨g, hrun, hstage, hcalls⟩ := hmain
  have hconnect : .connect ∈ g.board.callsOf 0 := by simp [hcalls]
  exact ⟨g, hrun, ((complete_iff_returned calm_small hrun 0).2 _ hstage hconnect).mpr ⟨_, rfl⟩⟩

/-- **Not every session has its last call**: one that registers when the registry has been drained
is not told to close, so that it is aborted when its time is up. -/
theorem not_complete_aborted :
    ¬∀ ms g i o, small.steps ms = some g → g.board.stage? i = some (.ended o) →
      .connect ∈ g.board.callsOf i → IsComplete (g.board.callsOf i) := by
  intro h
  have hmain : ∃ g, small.steps (opening ++ draining ++ joining 0 ++ [.graceOver, .abort 0]) = some g ∧
      g.board.stage? 0 = some (.ended .aborted) ∧ g.board.callsOf 0 = [.connect] :=
    ⟨_, rfl, rfl, rfl⟩
  obtain ⟨g, hrun, hstage, hcalls⟩ := hmain
  have hcomplete := h _ g 0 _ hrun hstage (by simp [hcalls])
  rw [hcalls] at hcomplete
  exact isBegun_connect.not_complete hcomplete

end Gateway

end SocketGateway
