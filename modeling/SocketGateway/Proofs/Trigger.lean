import SocketGateway.Proofs.Lifecycle

/-!
# What makes the standard handlers restart

On a switchboard whose namespaces are all served by the standard handlers, a session asks for a
restart exactly if its client sends a text that is an event of the configured name. So as long as
nobody else has hold of the coordinator, it leaves its rest at the first such frame on any of the
connections, and nothing that a client sends brings it on from there.
-/

namespace SocketGateway

open SocketGateway.Restart (Coordinator Phase)
open SocketGateway.Wire (Frame)

/-! ## Triggers -/

/-- Whether a frame asks for a restart: a text that is an event of the given name. -/
def Wire.Frame.isTrigger (name : String) : Frame → Bool
  | .text s =>
    match ClientMessage.decode s with
    | .ok (.event event _) => event = name
    | _ => false
  | _ => false

/-- **What a trigger is**: any text that is an event of exactly that name, whatever its
arguments. -/
theorem Wire.Frame.isTrigger_iff {name : String} {f : Frame} : f.isTrigger name = true ↔
    ∃ s args, f = .text s ∧ ClientMessage.decode s = .ok (.event name args) := by
  cases f with
  | text s =>
      simp only [isTrigger, text.injEq]
      constructor
      · intro h
        split at h
        · rename_i event args hdecode
          obtain rfl := of_decide_eq_true h
          exact ⟨s, args, rfl, hdecode⟩
        · cases h
      · rintro ⟨_, args, rfl, hdecode⟩
        simp [hdecode]
  | _ => simp [isTrigger]

def Occasion.isTrigger (name : String) : Occasion → Bool
  | .inbound f => f.isTrigger name
  | _ => false

def Cue.isTrigger (name : String) : Cue → Bool
  | .inbound f => f.isTrigger name
  | _ => false

def Deed.isTrigger (name : String) : Deed → Bool
  | .session _ _ cue => cue.isTrigger name
  | _ => false

theorem Deed.isTrigger_iff {name : String} {deed : Deed} : deed.isTrigger name = true ↔
    ∃ now i s args, deed = .session now i (.inbound (.text s)) ∧
      ClientMessage.decode s = .ok (.event name args) := by
  cases deed with
  | session now i cue =>
      cases cue with
      | inbound f =>
          simp only [isTrigger, Cue.isTrigger, Frame.isTrigger_iff]
          constructor
          · rintro ⟨s, args, rfl, hdecode⟩
            exact ⟨now, i, s, args, rfl, hdecode⟩
          · rintro ⟨now', i', s, args, heq, hdecode⟩
            cases heq
            exact ⟨s, args, rfl, hdecode⟩
      | _ => simp [isTrigger, Cue.isTrigger]
  | _ => simp [isTrigger]

def Deed.isOfSessions : Deed → Bool
  | .request | .transition .. => false
  | _ => true

/-- A trigger is heard as an event of its name, and nothing else is. -/
theorem Drive.any_wake {h : Config.Heartbeat} {now : Nat} {d : Drive} {o : Occasion}
    {name : String} : (d.wake h now o).2.any (fun e => e.1 = name) = o.isTrigger name := by
  cases o with
  | inbound f =>
      cases f with
      | text s =>
          simp only [wake, hear, Occasion.isTrigger, Frame.isTrigger]
          split <;> simp_all
      | _ => rfl
  | outbound f => cases f <;> rfl
  | tick =>
      simp only [wake]
      split <;> rfl
  | _ => rfl

namespace Switchboard

variable {b b' : Switchboard} {now i : Nat} {cue : Cue} {c : Connection} {hs : HandlerSet}
  {k : CallKind} {d : Drive} {name : String} {deed : Deed} {ds ds' : List Deed}

def performAll (b : Switchboard) (ds : List Deed) : Option Switchboard := ds.foldlM perform b

theorem performAll_cons : b.performAll (deed :: ds) = (b.perform deed).bind (·.performAll ds) := by
  simp [performAll, List.foldlM_cons, Option.bind_eq_bind]

theorem performAll_append :
    b.performAll (ds ++ ds') = (b.performAll ds).bind (·.performAll ds') := by
  simp [performAll, List.foldlM_append, Option.bind_eq_bind]

/-! ## One handler set for all -/

/-- **All namespaces and sessions have one handler set.** -/
structure Uniform (hs : HandlerSet) (b : Switchboard) : Prop where
  routed : ∀ path ns hs', b.router.resolve path = some (ns, hs') → hs' = hs
  served : ∀ i st hs', b.stage? i = some st → st.handlers? = some hs' → hs' = hs

namespace Uniform

variable {st st' : Stage} {o : Outcome}

theorem fresh {paths : List String} {beat : Config.Heartbeat} {limit : Nat} :
    (Switchboard.fresh (.shared paths hs) beat limit).Uniform hs where
  routed _ _ _ := Router.resolve_shared
  served i st hs' h := by simp [Switchboard.fresh, stage?] at h

theorem of_same (h : b.Uniform hs) (hrouter : b'.router = b.router)
    (hsessions : b'.sessions = b.sessions) : b'.Uniform hs := by
  constructor
  · rw [hrouter]
    exact h.routed
  · intro i st hs' hst
    rw [stage?_congr hsessions] at hst
    exact h.served i st hs' hst

theorem of_aside (h : b.Uniform hs) (haside : b.Aside b') : b'.Uniform hs :=
  h.of_same haside.router haside.sessions

theorem enter (h : b.Uniform hs) (hst : b.stage? i = some st)
    (hserved : ∀ hs', st'.handlers? = some hs' → hs' = hs) : (b.enter i st').Uniform hs := by
  refine ⟨h.routed, fun j st₂ hs' hst₂ hhs => ?_⟩
  by_cases hij : i = j
  · subst hij
    rw [stage?_enter_self hst] at hst₂
    cases hst₂
    exact hserved hs' hhs
  · rw [stage?_enter_of_ne hij] at hst₂
    exact h.served j st₂ hs' hst₂ hhs

theorem exit (h : b.Uniform hs) (hst : b.stage? i = some st) : (b.exit i c o).Uniform hs := by
  have hleft : (b.leave c).Uniform hs := h.of_same rfl rfl
  exact hleft.enter hst fun _ hhs => by cases hhs

theorem exit_after_call (h : b.Uniform hs) (hst : b.stage? i = some st) :
    ((b.call i c hs k).1.exit i c o).Uniform hs :=
  (h.of_aside aside_call).exit ((stage?_congr aside_call.sessions).trans hst)

theorem settle (h : b.Uniform hs) (hst : b.stage? i = some st) : (b.settle i c hs d).Uniform hs :=
  settle_cases (P := Uniform hs) (fun _ _ _ _ => h.exit_after_call hst)
    fun _ => h.enter hst fun _ hhs => (Option.some.inj hhs).symm

theorem wake {occasion : Occasion} (h : b.Uniform hs) (hst : b.stage? i = some st) :
    (b.wake i now c hs d occasion).Uniform hs :=
  wake_cases (P := Uniform hs) (fun _ => h.settle hst)
    (fun _ _ _ _ =>
      (h.of_aside aside_call).settle ((stage?_congr aside_call.sessions).trans hst))
    fun _ _ _ _ => h.exit_after_call hst

theorem sessionMove (h : b.Uniform hs) (hmove : SessionMove b now i b') : b'.Uniform hs := by
  cases hmove with
  | upgrade stage _ _ _ _ _ served =>
      refine h.enter stage fun hs' hhs => ?_
      obtain ⟨path, ns, hroute⟩ := served hs' hhs
      exact h.routed path ns hs' hroute
  | join stage =>
      have hserved := h.served _ _ _ stage rfl
      refine join_cases (P := Uniform hs) (fun registry _ => ?_) fun _ _ => ?_
      · have hjoined : Uniform hs { b with rooms := b.rooms.create, registry := registry } :=
          h.of_same rfl rfl
        exact hjoined.enter stage fun hs' hhs => (Option.some.inj hhs).symm.trans hserved
      · have hrefused : Uniform hs { b with rooms := b.rooms.create.hangUp b.rooms.next } :=
          h.of_same rfl rfl
        exact hrefused.enter stage fun _ hhs => by cases hhs
  | begin stage =>
      obtain rfl := h.served _ _ _ stage rfl
      refine begin_cases (P := Uniform _) (fun _ _ => ?_) fun _ => h.exit_after_call stage
      exact (h.of_aside aside_call).enter ((stage?_congr aside_call.sessions).trans stage)
        fun _ hhs => (Option.some.inj hhs).symm
  | ungreeted stage => exact h.exit stage
  | written stage =>
      obtain rfl := h.served _ _ _ stage rfl
      exact h.settle stage
  | woken stage =>
      obtain rfl := h.served _ _ _ stage rfl
      exact h.wake stage
  | @taken _ _ _ _ rooms stage =>
      obtain rfl := h.served _ _ _ stage rfl
      have htaken : Uniform _ { b with rooms := rooms } := h.of_same rfl rfl
      exact htaken.wake stage

/-- Every deed keeps to the one handler set. -/
theorem perform (h : b.Uniform hs) (hdeed : b.perform deed = some b') : b'.Uniform hs := by
  cases deed with
  | accept peer =>
      cases hdeed
      refine ⟨h.routed, fun i st hs' hst hhs => ?_⟩
      rw [stage?_accept] at hst
      split at hst
      · cases hst
        cases hhs
      · exact h.served i st hs' hst hhs
  | session now i cue => exact h.sessionMove (sessionMove_of_advance hdeed)
  | cutOff i o =>
      obtain ⟨st, hst, -, ⟨c, -, rfl⟩ | ⟨-, rfl⟩⟩ := cutOff_cases hdeed
      · exact h.exit hst
      · exact h.enter hst fun _ hhs => by cases hhs
  | register ns =>
      cases hdeed
      exact registerLoose_cases (P := Uniform hs) (fun _ => h.of_same rfl rfl) (h.of_same rfl rfl)
  | _ =>
      cases hdeed
      exact h.of_same rfl rfl

theorem performAll (h : b.Uniform hs) (hrun : b.performAll ds = some b') : b'.Uniform hs := by
  induction ds generalizing b with
  | nil =>
      cases hrun
      exact h
  | cons d ds ih =>
      rw [performAll_cons, Option.bind_eq_some_iff] at hrun
      obtain ⟨next, hnext, hrun⟩ := hrun
      exact ih (h.perform hnext) hrun

end Uniform

/-! ## What the standard handlers do to the coordinator -/

/-- At an event of their name the standard handlers ask for a restart. -/
theorem coordinator_call_event {event : String} {args : List Json.Value} :
    (b.call i c (.standard name) (.event event args)).1.coordinator =
      if event = name then b.coordinator.request.2 else b.coordinator := by
  by_cases hname : event = name <;>
    simp [call, HandlerSet.reactions, HandlerSet.standard, hname, react, request, note]

theorem coordinator_settle_standard :
    (b.settle i c (.standard name) d).coordinator = b.coordinator :=
  settle_cases (P := fun b' => b'.coordinator = b.coordinator) (fun _ _ _ _ => rfl) fun _ => rfl

theorem coordinator_begin_standard :
    (b.begin i now c (.standard name)).coordinator = b.coordinator :=
  begin_cases (P := fun b' => b'.coordinator = b.coordinator) (fun _ _ => rfl) fun _ => rfl

theorem coordinator_join {ns : Namespace} : (b.join i ns hs).coordinator = b.coordinator :=
  join_cases (P := fun b' => b'.coordinator = b.coordinator) (fun _ _ => rfl) fun _ _ => rfl

/-- An open connection asks for a restart when it is woken up by a trigger. -/
theorem coordinator_wake_standard {o : Occasion} :
    (b.wake i now c (.standard name) d o).coordinator =
      if o.isTrigger name then b.coordinator.request.2 else b.coordinator := by
  have hany : (d.wake b.heartbeat now o).2.any (fun e => e.1 = name) = o.isTrigger name :=
    Drive.any_wake
  rw [← hany]
  refine wake_cases (P := fun b' => b'.coordinator = _) (fun hsilent => ?_)
    (fun event args hevent _ => ?_) fun event args _ hbroken => ?_
  · rw [hsilent, coordinator_settle_standard]
    rfl
  · rw [hevent, coordinator_settle_standard, coordinator_call_event]
    simp
  · -- the standard handlers never break down
    rw [call_of_calm HandlerSet.isCalm_standard] at hbroken
    cases hbroken

/-- A session asks for a restart when it is told of a trigger. -/
theorem coordinator_advance (h : b.Uniform (.standard name))
    (hadvance : b.advance now i cue = some b') :
    b'.coordinator = if cue.isTrigger name then b.coordinator.request.2 else b.coordinator := by
  simp only [advance, Option.bind_eq_bind, Option.bind_eq_some_iff] at hadvance
  obtain ⟨st, hst, hadvance⟩ := hadvance
  split at hadvance
  · cases hadvance
    rfl
  · split at hadvance <;> cases hadvance <;> rfl
  · cases hadvance
    rfl
  · cases hadvance
    rfl
  · cases hadvance
    exact coordinator_join
  · cases hadvance
    rfl
  · cases hadvance
    rfl
  · cases hadvance
    rfl
  · cases hadvance
    rfl
  · obtain rfl := h.served _ _ _ hst rfl
    cases hadvance
    exact coordinator_begin_standard
  · cases hadvance
    rfl
  · -- an open connection
    obtain rfl := h.served _ _ _ hst rfl
    split at hadvance
    · cases hadvance
      exact coordinator_settle_standard
    · cases hadvance
      exact coordinator_settle_standard
    · cases hadvance
      exact coordinator_wake_standard
    · cases hadvance
      exact coordinator_wake_standard
    · cases hadvance
      exact coordinator_wake_standard
    · cases hadvance
      exact coordinator_wake_standard
    · split at hadvance
      · cases hadvance
        exact coordinator_wake_standard
      · cases hadvance
    · cases hadvance
  · cases hadvance

/-- **What a deed does to the coordinator**, unless it is somebody else's who has hold of that. -/
theorem coordinator_perform (h : b.Uniform (.standard name)) (hdeed : b.perform deed = some b')
    (hown : deed.isOfSessions = true) : b'.coordinator =
      if deed.isTrigger name then b.coordinator.request.2 else b.coordinator := by
  cases deed with
  | session now i cue => exact coordinator_advance h hdeed
  | cutOff i o =>
      obtain ⟨st, -, -, ⟨c, -, rfl⟩ | ⟨-, rfl⟩⟩ := cutOff_cases hdeed
      · rfl
      · rfl
  | register ns =>
      cases hdeed
      exact registerLoose_cases (P := fun b' => b'.coordinator = b.coordinator) (fun _ => rfl) rfl
  | request | transition => cases hown
  | _ =>
      cases hdeed
      rfl

/-- Past its first phase a restart is not touched by triggers. -/
theorem coordinator_of_ne_idle (h : b.Uniform (.standard name))
    (hrun : b.performAll ds = some b') (hown : ∀ deed ∈ ds, deed.isOfSessions = true)
    (hphase : b.coordinator.phase ≠ .idle) : b'.coordinator = b.coordinator := by
  induction ds generalizing b with
  | nil =>
      cases hrun
      rfl
  | cons deed ds ih =>
      rw [performAll_cons, Option.bind_eq_some_iff] at hrun
      obtain ⟨next, hnext, hrun⟩ := hrun
      have hsame : next.coordinator = b.coordinator := by
        rw [coordinator_perform h hnext (hown deed List.mem_cons_self), Coordinator.request,
          if_neg hphase, ite_self]
      rw [ih (h.perform hnext) hrun (fun d hd => hown d (List.mem_cons_of_mem deed hd))
        (hsame ▸ hphase), hsame]

/-- Without a trigger nothing happens to the coordinator. -/
theorem coordinator_of_no_trigger (h : b.Uniform (.standard name))
    (hrun : b.performAll ds = some b') (hown : ∀ deed ∈ ds, deed.isOfSessions = true)
    (hnone : ∀ deed ∈ ds, deed.isTrigger name = false) : b'.coordinator = b.coordinator := by
  induction ds generalizing b with
  | nil =>
      cases hrun
      rfl
  | cons deed ds ih =>
      rw [performAll_cons, Option.bind_eq_some_iff] at hrun
      obtain ⟨next, hnext, hrun⟩ := hrun
      have hsame : next.coordinator = b.coordinator := by
        rw [coordinator_perform h hnext (hown deed List.mem_cons_self),
          hnone deed List.mem_cons_self]
        rfl
      rw [ih (h.perform hnext) hrun (fun d hd => hown d (List.mem_cons_of_mem deed hd))
        (fun d hd => hnone d (List.mem_cons_of_mem deed hd)), hsame]

/-! ## The main result -/

/-- No deed of some brings a trigger. -/
theorem no_trigger_iff : (∀ deed ∈ ds, deed.isTrigger name = false) ↔
    ∀ now i s args, .session now i (.inbound (.text s)) ∈ ds →
      ClientMessage.decode s ≠ .ok (.event name args) := by
  constructor
  · intro h now i s args hmem hdecode
    have htrigger := Deed.isTrigger_iff.mpr ⟨now, i, s, args, rfl, hdecode⟩
    rw [h _ hmem] at htrigger
    cases htrigger
  · intro h deed hmem
    rw [Bool.eq_false_iff]
    intro htrigger
    obtain ⟨now, i, s, args, rfl, hdecode⟩ := Deed.isTrigger_iff.mp htrigger
    exact h now i s args hmem hdecode

/-- The first trigger starts a restart. -/
theorem first_trigger (h : b.Uniform (.standard name)) (hphase : b.coordinator.phase = .idle)
    (hrun : b.performAll (ds ++ deed :: ds') = some b')
    (hown : ∀ d ∈ ds ++ deed :: ds', d.isOfSessions = true)
    (hnone : ∀ d ∈ ds, d.isTrigger name = false) (htrigger : deed.isTrigger name = true) :
    ∃ b₁ b₂, b.performAll ds = some b₁ ∧ b₁.perform deed = some b₂ ∧
      b₁.coordinator = b.coordinator ∧ b₂.coordinator = b.coordinator.enter .draining ∧
      b'.coordinator = b₂.coordinator := by
  rw [performAll_append, Option.bind_eq_some_iff] at hrun
  obtain ⟨b₁, hrun₁, hrun⟩ := hrun
  rw [performAll_cons, Option.bind_eq_some_iff] at hrun
  obtain ⟨b₂, hdeed, hrun₂⟩ := hrun
  have hown₁ : ∀ d ∈ ds, d.isOfSessions = true := fun d hd => hown d (List.mem_append_left _ hd)
  have hown₂ : ∀ d ∈ ds', d.isOfSessions = true := by
    intro d hd
    exact hown d (List.mem_append_right _ (List.mem_cons_of_mem deed hd))
  have huniform₁ : b₁.Uniform (.standard name) := h.performAll hrun₁
  have hbefore : b₁.coordinator = b.coordinator := coordinator_of_no_trigger h hrun₁ hown₁ hnone
  have hstarted : b₂.coordinator = b.coordinator.enter .draining := by
    rw [coordinator_perform huniform₁ hdeed (hown deed (by simp)), if_pos htrigger, hbefore,
      Coordinator.request, if_pos hphase]
  have hunderWay : b₂.coordinator.phase ≠ .idle := by
    simp [hstarted, Coordinator.enter]
  have hafter : b'.coordinator = b₂.coordinator :=
    coordinator_of_ne_idle (huniform₁.perform hdeed) hrun₂ hown₂ hunderWay
  exact ⟨b₁, b₂, hrun₁, hdeed, hbefore, hstarted, hafter⟩

/-- **Exactly the restart event restarts.** Take any switchboard whose namespaces are served by the
standard handlers, in any state that it can get into, and any deeds from there that leave the
coordinator to the sessions: frames that arrive at any connections, among whatever else.

* From rest, a restart starts exactly if a text arrives that is an event of the configured name.
* It starts at the first of them; until then nothing happens to the coordinator, and nothing
  afterwards.
* Without such a text, or once a restart is under way, nothing happens at all.
* No frame completes a restart.
* An open connection that waits hears such a text whenever it comes. -/
theorem restart_event_restarts {paths : List String} {beat : Config.Heartbeat} {limit : Nat}
    {ds₀ : List Deed}
    (hopen : (fresh (.shared paths (.standard name)) beat limit).performAll ds₀ = some b)
    (hrun : b.performAll ds = some b') (hown : ∀ deed ∈ ds, deed.isOfSessions = true) :
    (b.coordinator.phase = .idle → (b'.coordinator.phase ≠ .idle ↔
      ∃ now i s args, .session now i (.inbound (.text s)) ∈ ds ∧
        ClientMessage.decode s = .ok (.event name args))) ∧
    (b.coordinator.phase = .idle → ∀ ds₁ now i s args ds₂,
      ds = ds₁ ++ .session now i (.inbound (.text s)) :: ds₂ →
      ClientMessage.decode s = .ok (.event name args) →
      (∀ now i s args, .session now i (.inbound (.text s)) ∈ ds₁ →
        ClientMessage.decode s ≠ .ok (.event name args)) →
      ∃ b₁ b₂, b.performAll ds₁ = some b₁ ∧
        b₁.perform (.session now i (.inbound (.text s))) = some b₂ ∧
        b₁.coordinator = b.coordinator ∧ b₂.coordinator = b.coordinator.enter .draining ∧
        b'.coordinator = b₂.coordinator) ∧
    (b.coordinator.phase ≠ .idle ∨ (∀ now i s args, .session now i (.inbound (.text s)) ∈ ds →
        ClientMessage.decode s ≠ .ok (.event name args)) →
      b'.coordinator = b.coordinator) ∧
    b'.coordinator.completed = b.coordinator.completed ∧
    (∀ now i c hs d s args, b'.stage? i = some (.open c hs d) → d.mode = .waiting →
      ClientMessage.decode s = .ok (.event name args) →
      ∃ b'', b'.perform (.session now i (.inbound (.text s))) = some b'' ∧
        b''.coordinator = b'.coordinator.request.2) := by
  have huniform : b.Uniform (.standard name) := Uniform.fresh.performAll hopen
  have huniform' : b'.Uniform (.standard name) := huniform.performAll hrun
  have hfirst : b.coordinator.phase = .idle → ∀ ds₁ deed ds₂, ds = ds₁ ++ deed :: ds₂ →
      (∀ d ∈ ds₁, d.isTrigger name = false) → deed.isTrigger name = true →
      ∃ b₁ b₂, b.performAll ds₁ = some b₁ ∧ b₁.perform deed = some b₂ ∧
        b₁.coordinator = b.coordinator ∧ b₂.coordinator = b.coordinator.enter .draining ∧
        b'.coordinator = b₂.coordinator := by
    rintro hphase ds₁ deed ds₂ rfl hnone htrigger
    exact first_trigger huniform hphase hrun hown hnone htrigger
  have hkept : b.coordinator.phase ≠ .idle ∨ (∀ deed ∈ ds, deed.isTrigger name = false) →
      b'.coordinator = b.coordinator := by
    rintro (hphase | hnone)
    · exact coordinator_of_ne_idle huniform hrun hown hphase
    · exact coordinator_of_no_trigger huniform hrun hown hnone
  -- all that can come of the deeds
  have hcases : b'.coordinator = b.coordinator ∧
        (b.coordinator.phase = .idle → ∀ deed ∈ ds, deed.isTrigger name = false) ∨
      b'.coordinator = b.coordinator.enter .draining ∧ ∃ deed ∈ ds, deed.isTrigger name = true := by
    by_cases hphase : b.coordinator.phase = .idle
    · cases hfind : ds.find? (Deed.isTrigger name) with
      | none =>
          have hnone : ∀ deed ∈ ds, deed.isTrigger name = false := by
            simpa only [List.find?_eq_none, Bool.not_eq_true] using hfind
          exact .inl ⟨hkept (.inr hnone), fun _ => hnone⟩
      | some deed =>
          obtain ⟨htrigger, ds₁, ds₂, hds, hnone⟩ := List.find?_eq_some_iff_append.mp hfind
          have hnone' : ∀ d ∈ ds₁, d.isTrigger name = false := by
            intro d hd
            simpa using hnone d hd
          obtain ⟨b₁, b₂, -, -, -, hstarted, hafter⟩ :=
            hfirst hphase ds₁ deed ds₂ hds hnone' htrigger
          exact .inr ⟨hafter.trans hstarted, deed, by simp [hds], htrigger⟩
    · exact .inl ⟨hkept (.inl hphase), fun hidle => absurd hidle hphase⟩
  refine ⟨fun hphase => ?_, ?_, ?_, ?_, ?_⟩
  · constructor
    · intro hleft
      rcases hcases with ⟨hsame, -⟩ | ⟨-, deed, hmem, htrigger⟩
      · exact absurd (hsame ▸ hphase) hleft
      · obtain ⟨now, i, s, args, rfl, hdecode⟩ := Deed.isTrigger_iff.mp htrigger
        exact ⟨now, i, s, args, hmem, hdecode⟩
    · rintro ⟨now, i, s, args, hmem, hdecode⟩
      rcases hcases with ⟨-, hnone⟩ | ⟨hstarted, -⟩
      · exact absurd hdecode (no_trigger_iff.mp (hnone hphase) now i s args hmem)
      · rw [hstarted]
        exact Phase.noConfusion
  · intro hphase ds₁ now i s args ds₂ hds hdecode hnone
    exact hfirst hphase ds₁ _ ds₂ hds (no_trigger_iff.mpr hnone)
      (Deed.isTrigger_iff.mpr ⟨now, i, s, args, rfl, hdecode⟩)
  · rw [← no_trigger_iff]
    exact hkept
  · rcases hcases with ⟨hsame, -⟩ | ⟨hstarted, -⟩
    · rw [hsame]
    · rw [hstarted]
      rfl
  · intro now i c hs d s args hstage hmode hdecode
    have hheard : ∃ b'', b'.perform (.session now i (.inbound (.text s))) = some b'' := by
      simp [perform, advance, hstage, hmode]
    obtain ⟨b'', hdeed⟩ := hheard
    refine ⟨b'', hdeed, ?_⟩
    rw [coordinator_perform huniform' hdeed rfl,
      if_pos (Deed.isTrigger_iff.mpr ⟨now, i, s, args, rfl, hdecode⟩)]

def gathering : List Deed :=
  [.accept Gateway.smallAddress, .accept Gateway.smallAddress,
    .session 0 0 (.requested "/a"), .session 0 0 .wrote, .session 0 0 .wrote,
    .session 0 1 (.requested "/b"), .session 0 1 .wrote, .session 0 1 .wrote]

def chatter : List Deed :=
  [.session 1 0 (.inbound (.text "\x7b\"type\":\"event\",\"event\":\"Restart\"\x7d")),
    .session 2 1 (.inbound (.ping []))]

/-- The restart event with an argument, the tag last. -/
def restartText : String := "\x7b\"event\":\"restart\",\"args\":[1],\"type\":\"event\"\x7d"

def asking : List Deed :=
  chatter ++ .session 3 1 (.inbound (.text restartText)) ::
    [.session 4 0 (.inbound (.text restartText))]

/-- The second client starts a restart, and the first one no other. -/
theorem restart_event_restarts_gathering :
    ∃ b b₁ b', (fresh (.shared ["/a", "/b"] (.standard "restart")) ⟨25000, 20000⟩ 4).performAll
        gathering = some b ∧ b.performAll asking = some b' ∧
      (∀ deed ∈ asking, deed.isOfSessions = true) ∧ b.coordinator.phase = .idle ∧
      b.performAll chatter = some b₁ ∧ b₁.coordinator = b.coordinator ∧
      b'.coordinator = b.coordinator.enter .draining ∧ b'.coordinator.phase ≠ .idle := by
  have hown : ∀ deed ∈ asking, deed.isOfSessions = true := List.all_eq_true.mp (by decide)
  have hgathered : ∃ b, (fresh (.shared ["/a", "/b"] (.standard "restart")) ⟨25000, 20000⟩
      4).performAll gathering = some b ∧ b.coordinator.phase = .idle ∧
      (b.performAll asking).isSome = true := ⟨_, rfl, rfl, by decide +kernel⟩
  obtain ⟨b, hopen, hidle, hsome⟩ := hgathered
  obtain ⟨b', hrun⟩ := Option.isSome_iff_exists.mp hsome
  have htrigger : (Frame.text restartText).isTrigger "restart" = true := by decide
  have hother : ∀ deed ∈ chatter, deed.isTrigger "restart" = false := by decide
  obtain ⟨_, args, ⟨⟩, hdecode⟩ := Frame.isTrigger_iff.mp htrigger
  obtain ⟨hleft, hfirst, -, -, -⟩ := restart_event_restarts hopen hrun hown
  obtain ⟨b₁, b₂, hrun₁, -, hbefore, hstarted, hafter⟩ :=
    hfirst hidle chatter 3 1 restartText args _ rfl hdecode (no_trigger_iff.mp hother)
  exact ⟨b, b₁, b', hopen, hrun, hown, hidle, hrun₁, hbefore, hafter.trans hstarted,
    (hleft hidle).mpr ⟨3, 1, restartText, args, by simp [asking], hdecode⟩⟩

end Switchboard

end SocketGateway
