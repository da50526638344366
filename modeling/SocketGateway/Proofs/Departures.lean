import SocketGateway.Proofs.Footsteps
import SocketGateway.Proofs.Frames

/-!
# How a session departs

A session that is not cut off ends in one of five ways: its upgrade fails, its path is not served,
there is no room, the greeting cannot be written, or the client was greeted and the connection ran
its course. Each way fixes what was written, which calls the handlers had, what was done to the
registry, and what the session returns. `Stage.Fits` says of every stage what has happened on the
way to it.
-/

namespace SocketGateway

open SocketGateway.Config (Heartbeat)
open SocketGateway.Wire (CloseCode Frame)

/-! ## Accounts -/

/-- What is known of a session: the router and the heartbeat that it works with, its number, its
footsteps, and the calls of its handlers. -/
structure Account where
  router : Router HandlerSet
  heartbeat : Heartbeat
  session : Nat
  steps : List Footstep
  calls : List CallKind

namespace Account

variable {a : Account} {s : Footstep} {ks : List CallKind}

def requests (a : Account) : List String := SocketGateway.requests a.steps

def attempts (a : Account) : List (Writing × Bool) := SocketGateway.attempts a.session a.steps

def extend (a : Account) (s : Footstep) (ks : List CallKind) : Account :=
  { a with steps := a.steps ++ [s], calls := a.calls ++ ks }

@[simp] theorem requests_extend :
    (a.extend s ks).requests = a.requests ++ s.request?.toList := requests_snoc

@[simp] theorem attempts_extend :
    (a.extend s ks).attempts = a.attempts ++ (s.attempt? a.session).toList := attempts_snoc

@[simp] theorem router_extend : (a.extend s ks).router = a.router := rfl

@[simp] theorem heartbeat_extend : (a.extend s ks).heartbeat = a.heartbeat := rfl

@[simp] theorem calls_extend : (a.extend s ks).calls = a.calls ++ ks := rfl

end Account

/-! ## Ways to end -/

namespace Account

/-- The upgrade failed, though no path was refused. -/
structure Unopened (a : Account) (o : Outcome) : Prop where
  served : ∀ path ∈ a.requests, (a.router.resolve path).isSome = true
  attempted : a.attempts = [] ∨ a.attempts = [(.grant, false)]
  untouched : Untouched a.steps
  silent : a.calls = []
  failed : ∃ e, o = .returned (.error (.websocket e))

/-- The path was not served: the answer was 404, if it could be written. -/
structure Unserved (a : Account) (o : Outcome) (path : String) : Prop where
  asked : a.requests = [path]
  unserved : a.router.resolve path = none
  attempted : ∃ written, a.attempts = [(.refusal path, written)]
  status : ∃ rest, Http.refusalText path = "HTTP/1.1 404 Not Found\r\n" ++ rest
  untouched : Untouched a.steps
  silent : a.calls = []
  outcome : o = .returned (.error (.unknownNamespace path))

/-- The first frame to a client for which there is no room: an error. -/
def noRoomFrame (limit : Nat) : Frame :=
  Drive.errorFrame (GatewayError.capacityReached limit).message

/-- The second one, which closes the connection with the code 1013. -/
def tryAgainFrame : Frame := .closing CloseCode.tryAgain "connection limit reached"

/-- How a refusal ends: both frames were written, or one of them could not be. -/
def IsRefusal (limit : Nat) (o : Outcome) (attempts : List (Writing × Bool)) : Prop :=
  o = .returned (.error (.capacityReached limit)) ∧
      attempts =
        [(.grant, true), (.frame (noRoomFrame limit), true), (.frame tryAgainFrame, true)] ∨
    (∃ e, o = .returned (.error (.websocket e))) ∧
      (attempts = [(.grant, true), (.frame (noRoomFrame limit), false)] ∨
        attempts =
          [(.grant, true), (.frame (noRoomFrame limit), true), (.frame tryAgainFrame, false)])

/-- There was no room: the client was told so, unless a write failed. It reads the one frame as an
error and finds the code 1013 in the other. -/
structure Refused (a : Account) (o : Outcome) (limit : Nat) : Prop where
  asked : ∃ path, a.requests = [path] ∧ (a.router.resolve path).isSome = true
  full : ∃ s ∈ a.steps, s.before.registry.limit = limit ∧ limit ≤ s.before.registry.size
  untouched : Untouched a.steps
  silent : a.calls = []
  outcome : IsRefusal limit o a.attempts
  told : (noRoomFrame limit).Conveys (.error (GatewayError.capacityReached limit).message)
  dismissed : ∃ reason, tryAgainFrame = .close (some ⟨1013, reason⟩)

/-- A connection was asked for, to the namespace of a path, which handlers serve. -/
structure Routed (a : Account) (c : Connection) (hs : HandlerSet) : Prop where
  asked : ∃ path, a.requests = [path] ∧ c.ns = Namespace.parse path ∧
    a.router.resolve path = some (c.ns, hs)

/-- What a client reads in the greeting of its connection. -/
def Introduces (a : Account) (c : Connection) : Prop :=
  (Stage.helloFrame a.heartbeat c).Conveys
    (.connected c.id c.ns.text a.heartbeat.interval a.heartbeat.timeout)

/-- The greeting could not be written. -/
structure Ungreeted (a : Account) (o : Outcome) (c : Connection) (hs : HandlerSet) : Prop
    extends a.Routed c hs where
  attempted : a.attempts = [(.grant, true), (.frame (Stage.helloFrame a.heartbeat c), false)]
  greeting : a.Introduces c
  passage : CameAndWent c a.steps
  silent : a.calls = []
  failed : ∃ e, o = .returned (.error (.websocket e))

/-- The client was greeted before anything else, and the session returned after its handlers had all
their calls, unless they broke down or the clock could not be set. -/
structure Greeted (a : Account) (o : Outcome) (c : Connection) (hs : HandlerSet) : Prop
    extends a.Routed c hs where
  attempted : ∃ rest, a.attempts =
    (.grant, true) :: (.frame (Stage.helloFrame a.heartbeat c), true) :: rest
  greeting : a.Introduces c
  passage : CameAndWent c a.steps
  outcome : o = .returned (.ok ()) ∧ IsComplete a.calls ∨
    o = .panicked ∧ (IsBegun a.calls ∨ IsComplete a.calls) ∧
      (¬hs.IsCalm ∨ a.heartbeat.interval = 0)

end Account

/-- A way for a session to end. -/
inductive Departure where
  | unopened
  | unserved
  | refused
  | ungreeted
  | greeted
deriving DecidableEq

def Departure.Describes (a : Account) (o : Outcome) : Departure → Prop
  | .unopened => a.Unopened o
  | .unserved => ∃ path, a.Unserved o path
  | .refused => ∃ limit, a.Refused o limit
  | .ungreeted => ∃ c hs, a.Ungreeted o c hs
  | .greeted => ∃ c hs, a.Greeted o c hs

/-! ### Only one of them -/

def Wire.Frame.isGreeting : Frame → Bool
  | .text s =>
    match ServerMessage.decode s with
    | .ok (.connected ..) => true
    | _ => false
  | _ => false

theorem Stage.isGreeting_helloFrame (h : Heartbeat) (c : Connection) :
    (helloFrame h c).isGreeting = true := by
  obtain ⟨text, htext, hdecode⟩ := conveys_helloFrame h c
  rw [htext]
  simp [Frame.isGreeting, hdecode]

theorem Drive.isGreeting_errorFrame (text : String) : (errorFrame text).isGreeting = false := by
  obtain ⟨s, hs, hdecode⟩ := conveys_errorFrame text
  rw [hs]
  simp [Frame.isGreeting, hdecode]

def Departure.ofAttempts : List (Writing × Bool) → Departure
  | (.refusal _, _) :: _ => .unserved
  | _ :: (.frame f, written) :: _ =>
    if f.isGreeting then if written then .greeted else .ungreeted else .refused
  | _ => .unopened

/-- **What a session wrote tells how it ended.** -/
theorem Departure.eq_ofAttempts {a : Account} {o : Outcome} {way : Departure}
    (h : way.Describes a o) : way = ofAttempts a.attempts := by
  cases way with
  | unopened =>
      rcases h.attempted with hnone | hgrant
      · rw [hnone]
        rfl
      · rw [hgrant]
        rfl
  | unserved =>
      obtain ⟨path, h⟩ := h
      obtain ⟨written, hattempts⟩ := h.attempted
      rw [hattempts]
      rfl
  | refused =>
      obtain ⟨limit, h⟩ := h
      obtain ⟨-, hattempts⟩ | ⟨-, hattempts | hattempts⟩ := h.outcome
      all_goals simp [hattempts, ofAttempts, Account.noRoomFrame, Drive.isGreeting_errorFrame]
  | ungreeted =>
      obtain ⟨c, hs, h⟩ := h
      simp [h.attempted, ofAttempts, Stage.isGreeting_helloFrame]
  | greeted =>
      obtain ⟨c, hs, h⟩ := h
      obtain ⟨rest, hattempts⟩ := h.attempted
      simp [hattempts, ofAttempts, Stage.isGreeting_helloFrame]

theorem Departure.describes_ofAttempts {a : Account} {o : Outcome}
    (h : ∃! way : Departure, way.Describes a o) : (ofAttempts a.attempts).Describes a o := by
  obtain ⟨way, hway, -⟩ := h
  rw [← eq_ofAttempts hway]
  exact hway

/-! ## What has happened on the way to a stage -/

namespace Account

/-- A session was asked for a path, and there was no connection nor any call yet. -/
structure Asked (a : Account) (path : String) (attempts : List (Writing × Bool)) : Prop where
  asked : a.requests = [path]
  attempted : a.attempts = attempts
  untouched : Untouched a.steps
  silent : a.calls = []

/-- A session has registered its connection, and whatever was registered is still there. -/
structure Joined (a : Account) (c : Connection) (hs : HandlerSet) : Prop
    extends a.Routed c hs where
  registered : Registered c a.steps

end Account

/-- **What has happened to a session at a stage.** -/
def Stage.Fits (a : Account) : Stage → Prop
  | .handshaking => a.steps = [] ∧ a.calls = []
  | .rejecting path => a.Asked path [] ∧ a.router.resolve path = none
  | .granting ns hs => ∃ path, a.Asked path [] ∧ a.router.resolve path = some (ns, hs)
  | .refusing limit frames => ∃ path attempts,
      a.Asked path attempts ∧ (a.router.resolve path).isSome = true ∧
        (∃ s ∈ a.steps, s.before.registry.limit = limit ∧ limit ≤ s.before.registry.size) ∧
        (attempts = [(.grant, true)] ∧
            frames = [Account.noRoomFrame limit, Account.tryAgainFrame] ∨
          attempts = [(.grant, true), (.frame (Account.noRoomFrame limit), true)] ∧
            frames = [Account.tryAgainFrame])
  | .greeting c hs => a.Joined c hs ∧ a.attempts = [(.grant, true)] ∧ a.calls = []
  | .open c hs d => a.Joined c hs ∧
      (∃ rest, a.attempts =
        (.grant, true) :: (.frame (Stage.helloFrame a.heartbeat c), true) :: rest) ∧
      IsBegun a.calls ∧ ∀ reason, d.mode ≠ .over reason
  | .ended o => ∃ way : Departure, way.Describes a o

namespace Switchboard

variable {a : Account} {b b₁ b' : Switchboard} {now : Nat} {cue : Cue} {st st' : Stage}
  {c : Connection} {hs : HandlerSet} {d : Drive} {ks : List CallKind} {o : Outcome}
  {deed : Deed} {ds : List Deed}

/-! ## What a session writes at a step -/

theorem attempt?_wrote (hst : b.stage? a.session = some st) (hbeat : b.heartbeat = a.heartbeat) :
    Footstep.attempt? a.session ⟨b, .wrote, b'⟩ =
      (st.pending? a.heartbeat).map (·, true) := by
  simp [Footstep.attempt?, pending?, hst, hbeat]

theorem attempt?_writeFailed {e : Http.UpgradeError} (hst : b.stage? a.session = some st)
    (hbeat : b.heartbeat = a.heartbeat) :
    Footstep.attempt? a.session ⟨b, .writeFailed e, b'⟩ =
      (st.pending? a.heartbeat).map (·, false) := by
  simp [Footstep.attempt?, pending?, hst, hbeat]

/-! ## Steps of the session -/

def Leads (a : Account) (b : Switchboard) (cue : Cue) (b' : Switchboard) : Prop :=
  ∃ st ks, b'.stage? a.session = some st ∧ b'.callsOf a.session = b.callsOf a.session ++ ks ∧
    st.Fits (a.extend ⟨b, cue, b'⟩ ks)

/-- A session enters a stage, maybe after a call of its handlers or a change of the registry. -/
theorem leads_of_enter (hst : b.stage? a.session = some st) (hsessions : b₁.sessions = b.sessions)
    (hcalls : b₁.callsOf a.session = b.callsOf a.session ++ ks)
    (hfits : st'.Fits (a.extend ⟨b, cue, b₁.enter a.session st'⟩ ks)) :
    Leads a b cue (b₁.enter a.session st') :=
  ⟨st', ks, stage?_enter_self ((stage?_congr hsessions).trans hst), hcalls, hfits⟩

theorem leads_of_enter_silent (hst : b.stage? a.session = some st)
    (hfits : st'.Fits (a.extend ⟨b, cue, b.enter a.session st'⟩ [])) :
    Leads a b cue (b.enter a.session st') :=
  leads_of_enter hst rfl (List.append_nil _).symm hfits

/-! ### Before there is a connection -/

theorem leads_of_handshaking (hst : b.stage? a.session = some .handshaking)
    (hfits : Stage.handshaking.Fits a) (hrouter : b.router = a.router)
    (h : b.advance now a.session cue = some b') : Leads a b cue b' := by
  obtain ⟨hsteps, hcalls⟩ := hfits
  have hrequests : a.requests = [] := by simp [Account.requests, requests, hsteps]
  have hattempts : a.attempts = [] := by simp [Account.attempts, attempts, hsteps]
  have huntouched : Untouched a.steps := by simp [Untouched, hsteps]
  simp only [advance, hst, Option.bind_eq_bind, Option.bind_some] at h
  cases cue with
  | upgradeFailed e =>
      cases h
      refine leads_of_enter_silent hst ⟨.unopened, ?_, ?_, huntouched.snoc rfl, ?_, e, rfl⟩
      · simp [hrequests, Footstep.request?]
      · simp [hattempts, Footstep.attempt?]
      · simp [hcalls]
  | requested path =>
      -- the path decides whether the upgrade will be refused or granted
      have hasked : ∀ st,
          (a.extend ⟨b, .requested path, b.enter a.session st⟩ []).Asked path [] := by
        intro st
        refine ⟨?_, ?_, huntouched.snoc rfl, ?_⟩
        · simp [hrequests, Footstep.request?]
        · simp [hattempts, Footstep.attempt?]
        · simp [hcalls]
      dsimp only at h
      rw [hrouter] at h
      split at h <;> rename_i hroute <;> cases h
      · exact leads_of_enter_silent hst ⟨hasked _, hroute⟩
      · exact leads_of_enter_silent hst ⟨path, hasked _, hroute⟩
  | _ => cases h

theorem leads_of_rejecting {path : String} (hst : b.stage? a.session = some (.rejecting path))
    (hfits : (Stage.rejecting path).Fits a) (hbeat : b.heartbeat = a.heartbeat)
    (h : b.advance now a.session cue = some b') : Leads a b cue b' := by
  obtain ⟨hasked, hroute⟩ := hfits
  have hend : ∀ st written, Footstep.attempt? a.session ⟨b, cue, b.enter a.session st⟩ =
        some (.refusal path, written) → Footstep.request? ⟨b, cue, b.enter a.session st⟩ = none →
      (a.extend ⟨b, cue, b.enter a.session st⟩ []).Unserved
        (.returned (.error (.unknownNamespace path))) path := by
    intro st written hattempt hrequest
    have hstatus : Http.refusalText path =
        "HTTP/1.1 404 Not Found\r\n" ++ ("\r\nunknown namespace " ++ path) := by
      rw [← String.append_assoc]
      rfl
    refine ⟨?_, hroute, ⟨written, ?_⟩, ⟨_, hstatus⟩, hasked.untouched.snoc rfl, ?_, rfl⟩
    · simp [hrequest, hasked.asked]
    · simp [hattempt, hasked.attempted]
    · simp [hasked.silent]
  simp only [advance, hst, Option.bind_eq_bind, Option.bind_some] at h
  cases cue with
  | wrote =>
      cases h
      exact leads_of_enter_silent hst
        ⟨.unserved, path, hend _ true (attempt?_wrote hst hbeat) rfl⟩
  | writeFailed e =>
      cases h
      exact leads_of_enter_silent hst
        ⟨.unserved, path, hend _ false (attempt?_writeFailed hst hbeat) rfl⟩
  | _ => cases h

/-- A connection is registered if there is room, under the namespace that was asked for. -/
theorem leads_of_join {ns : Namespace} (hst : b.stage? a.session = some (.granting ns hs))
    (hfits : (Stage.granting ns hs).Fits a) (hbeat : b.heartbeat = a.heartbeat) :
    Leads a b .wrote (b.join a.session ns hs) := by
  obtain ⟨path, hasked, hroute⟩ := hfits
  obtain ⟨hs', -, heq⟩ := Option.map_eq_some_iff.mp hroute
  have hns : ns = Namespace.parse path := (congrArg Prod.fst heq).symm
  refine join_cases (P := Leads a b .wrote) (fun registry hregister => ?_) fun e hregister => ?_
  · refine leads_of_enter hst rfl (List.append_nil _).symm ⟨?_, ?_, ?_⟩
    · refine ⟨⟨path, ?_, hns, hroute⟩, hasked.untouched.registered hregister⟩
      simp [hasked.asked, Footstep.request?]
    · simp [attempt?_wrote hst hbeat, hasked.attempted, Stage.pending?]
    · simp [hasked.silent]
  · -- only a registry without room refuses a connection
    have hfull : b.registry.limit ≤ b.registry.size := by
      unfold Registry.register at hregister
      split at hregister
      · assumption
      · cases hregister
    refine leads_of_enter hst rfl (List.append_nil _).symm
      ⟨path, _, ⟨?_, ?_, hasked.untouched.snoc rfl, ?_⟩, ?_, ?_, .inl ⟨rfl, rfl⟩⟩
    · simp [hasked.asked, Footstep.request?]
    · simp [attempt?_wrote hst hbeat, hasked.attempted, Stage.pending?]
    · simp [hasked.silent]
    · simp [hroute]
    · exact ⟨_, List.mem_append_right _ (List.mem_singleton.mpr rfl), rfl, hfull⟩

theorem leads_of_granting {ns : Namespace} (hst : b.stage? a.session = some (.granting ns hs))
    (hfits : (Stage.granting ns hs).Fits a) (hbeat : b.heartbeat = a.heartbeat)
    (h : b.advance now a.session cue = some b') : Leads a b cue b' := by
  have hadvance := h
  simp only [advance, hst, Option.bind_eq_bind, Option.bind_some] at hadvance
  cases cue with
  | wrote =>
      cases hadvance
      exact leads_of_join hst hfits hbeat
  | writeFailed e =>
      obtain ⟨path, hasked, hroute⟩ := hfits
      cases hadvance
      refine leads_of_enter_silent hst
        ⟨.unopened, ?_, .inr ?_, hasked.untouched.snoc rfl, ?_, e, rfl⟩
      · simp [hasked.asked, Footstep.request?, hroute]
      · simp [attempt?_writeFailed hst hbeat, hasked.attempted, Stage.pending?]
      · simp [hasked.silent]
  | _ => cases hadvance

/-- A refusal goes on with its second frame, and ends after that or when a frame cannot be
written. -/
theorem leads_of_refusing {limit : Nat} {frames : List Frame}
    (hst : b.stage? a.session = some (.refusing limit frames))
    (hfits : (Stage.refusing limit frames).Fits a) (hbeat : b.heartbeat = a.heartbeat)
    (h : b.advance now a.session cue = some b') : Leads a b cue b' := by
  obtain ⟨path, attempts, hasked, hserved, ⟨s, hs, hfull⟩, hframes⟩ := hfits
  have hmem : ∀ s', s ∈ a.steps ++ [s'] := fun _ => List.mem_append_left _ hs
  -- however the refusal ends, only its attempts remain to be told
  have hrefused : ∀ s' o, s'.Spares → s'.request? = none →
      Account.IsRefusal limit o (a.attempts ++ (s'.attempt? a.session).toList) →
      (Stage.ended o).Fits (a.extend s' []) := by
    intro s' o hspares hrequest ho
    have hattempts : (a.extend s' []).attempts = a.attempts ++ (s'.attempt? a.session).toList :=
      Account.attempts_extend
    refine ⟨.refused, limit, ⟨path, ?_, hserved⟩, ⟨s, hmem _, hfull⟩,
      hasked.untouched.snoc hspares, ?_, hattempts ▸ ho, Drive.conveys_errorFrame _, _, rfl⟩
    · simp [hrequest, hasked.asked]
    · simp [hasked.silent]
  simp only [advance, hst, Option.bind_eq_bind, Option.bind_some] at h
  obtain ⟨rfl, rfl⟩ | ⟨rfl, rfl⟩ := hframes
  · cases cue with
    | wrote =>
        cases h
        refine leads_of_enter_silent hst
          ⟨path, _, ⟨?_, rfl, hasked.untouched.snoc rfl, ?_⟩, hserved, ⟨s, hmem _, hfull⟩,
            .inr ⟨?_, rfl⟩⟩
        · simp [hasked.asked, Footstep.request?]
        · simp [hasked.silent]
        · simp [attempt?_wrote hst hbeat, hasked.attempted, Stage.pending?]
    | writeFailed e =>
        cases h
        refine leads_of_enter_silent hst (hrefused _ _ rfl rfl (.inr ⟨⟨e, rfl⟩, .inl ?_⟩))
        simp [attempt?_writeFailed hst hbeat, hasked.attempted, Stage.pending?]
    | _ => cases h
  · cases cue with
    | wrote =>
        cases h
        refine leads_of_enter_silent hst (hrefused _ _ rfl rfl (.inl ⟨rfl, ?_⟩))
        simp [attempt?_wrote hst hbeat, hasked.attempted, Stage.pending?]
    | writeFailed e =>
        cases h
        refine leads_of_enter_silent hst (hrefused _ _ rfl rfl (.inr ⟨⟨e, rfl⟩, .inr ?_⟩))
        simp [attempt?_writeFailed hst hbeat, hasked.attempted, Stage.pending?]
    | _ => cases h

/-! ### While there is a connection -/

theorem request?_of_advance (h : b.advance now a.session cue = some b')
    (hst : b.stage? a.session = some st) (hne : st ≠ .handshaking) :
    ∀ b₁, Footstep.request? ⟨b, cue, b₁⟩ = none := by
  intro b₁
  cases cue with
  | requested path =>
      simp only [advance, hst, Option.bind_eq_bind, Option.bind_some] at h
      split at h
      all_goals simp_all
  | _ => rfl

/-- What a connection needs to go on: its handlers have been called, if at all, on the way from one
board to the other. -/
structure Onward (a : Account) (b b₁ : Switchboard) (ks : List CallKind) : Prop where
  sessions : b₁.sessions = b.sessions
  registry : b₁.registry = b.registry
  calls : b₁.callsOf a.session = b.callsOf a.session ++ ks

theorem Onward.call {k : CallKind} (h : Onward a b b₁ ks) :
    Onward a b (b₁.call a.session c hs k).1 (ks ++ [k]) where
  sessions := aside_call.sessions.trans h.sessions
  registry := aside_call.registry.trans h.registry
  calls := by rw [callsOf_call_self, h.calls, List.append_assoc]

theorem onward_refl : Onward a b b [] := ⟨rfl, rfl, (List.append_nil _).symm⟩

/-- A connection that the client was told of ends with whatever its handlers were called for. -/
theorem leads_of_exit (hst : b.stage? a.session = some st) (hjoined : a.Joined c hs)
    (hrequest : ∀ b', Footstep.request? ⟨b, cue, b'⟩ = none)
    (hgreeted : ∀ b', ∃ rest, a.attempts ++ (Footstep.attempt? a.session ⟨b, cue, b'⟩).toList =
      (.grant, true) :: (.frame (Stage.helloFrame a.heartbeat c), true) :: rest)
    (hon : Onward a b b₁ ks)
    (ho : o = .returned (.ok ()) ∧ IsComplete (a.calls ++ ks) ∨
      o = .panicked ∧ (IsBegun (a.calls ++ ks) ∨ IsComplete (a.calls ++ ks)) ∧
        (¬hs.IsCalm ∨ a.heartbeat.interval = 0)) :
    Leads a b cue (b₁.exit a.session c o) := by
  obtain ⟨path, hasked, hroute⟩ := hjoined.asked
  have hsessions : (b₁.leave c).sessions = b.sessions := hon.sessions
  have hcalls : (b₁.leave c).callsOf a.session = b.callsOf a.session ++ ks := hon.calls
  refine leads_of_enter hst hsessions hcalls
    ⟨.greeted, c, hs, ⟨path, ?_, hroute⟩, ?_, Stage.conveys_helloFrame _ c,
      ⟨a.steps, _, rfl, hjoined.registered, ?_⟩, ho⟩
  · simp [hrequest, hasked]
  · simpa using hgreeted _
  · show (b₁.registry.remove c.id).2 = (b.registry.remove c.id).2
    rw [hon.registry]

theorem leads_of_greeting (hst : b.stage? a.session = some (.greeting c hs))
    (hfits : (Stage.greeting c hs).Fits a) (hbeat : b.heartbeat = a.heartbeat)
    (h : b.advance now a.session cue = some b') : Leads a b cue b' := by
  obtain ⟨hjoined, hattempts, hcalls⟩ := hfits
  have hrequest := request?_of_advance h hst Stage.noConfusion
  obtain ⟨path, hasked, hroute⟩ := hjoined.asked
  simp only [advance, hst, Option.bind_eq_bind, Option.bind_some] at h
  cases cue with
  | wrote =>
      cases h
      have hgreeted : ∀ b', a.attempts ++ (Footstep.attempt? a.session ⟨b, .wrote, b'⟩).toList =
          [(.grant, true), (.frame (Stage.helloFrame a.heartbeat c), true)] := by
        intro b'
        simp [attempt?_wrote hst hbeat, hattempts, Stage.pending?]
      have hbegun : IsBegun (a.calls ++ [.connect]) := by
        rw [hcalls]
        exact isBegun_connect
      have hon : Onward a b (b.call a.session c hs .connect).1 [.connect] := onward_refl.call
      -- the connection is open, unless its first call or its clock broke down
      refine begin_cases (P := Leads a b .wrote) (fun _ _ => ?_) fun hbroken => ?_
      · refine leads_of_enter hst hon.sessions hon.calls
          ⟨⟨⟨path, ?_, hroute⟩, hjoined.registered.snoc hon.registry⟩, ⟨[], ?_⟩, hbegun, ?_⟩
        · simp [hrequest, hasked]
        · simpa using hgreeted _
        · exact fun _ => Mode.noConfusion
      · refine leads_of_exit hst hjoined hrequest (fun b' => ⟨[], hgreeted b'⟩) hon
          (.inr ⟨rfl, .inl hbegun, ?_⟩)
        rcases hbroken with hcall | hinterval
        · left
          intro hcalm
          rw [call_of_calm hcalm] at hcall
          cases hcall
        · exact .inr (hbeat ▸ hinterval)
  | writeFailed e =>
      cases h
      have hleft : (b.leave c).callsOf a.session = b.callsOf a.session ++ [] :=
        (List.append_nil _).symm
      refine leads_of_enter hst rfl hleft
        ⟨.ungreeted, c, hs, ⟨path, ?_, hroute⟩, ?_, Stage.conveys_helloFrame _ c,
          ⟨a.steps, _, rfl, hjoined.registered, rfl⟩, ?_, e, rfl⟩
      · simp [hrequest, hasked]
      · simp [attempt?_writeFailed hst hbeat, hattempts, Stage.pending?]
      · simp [hcalls]
  | _ => cases h

/-- An open connection stays open, or ends with the last call of its handlers. -/
theorem leads_of_settle {d' : Drive} (hst : b.stage? a.session = some (.open c hs d))
    (hfits : (Stage.open c hs d).Fits a)
    (hrequest : ∀ b', Footstep.request? ⟨b, cue, b'⟩ = none) (hon : Onward a b b₁ ks)
    (hbegun : IsBegun (a.calls ++ ks)) : Leads a b cue (b₁.settle a.session c hs d') := by
  obtain ⟨hjoined, ⟨rest, hattempts⟩, -, -⟩ := hfits
  obtain ⟨path, hasked, hroute⟩ := hjoined.asked
  have hgreeted : ∀ b', ∃ rest,
      a.attempts ++ (Footstep.attempt? a.session ⟨b, cue, b'⟩).toList =
        (.grant, true) :: (.frame (Stage.helloFrame a.heartbeat c), true) :: rest := by
    intro b'
    rw [hattempts]
    exact ⟨_, rfl⟩
  -- a drive that is over has the handlers called once more, and the session ends
  refine settle_cases (P := Leads a b cue) (fun reason _ o ho => ?_) fun hgoing => ?_
  · have hcomplete : IsComplete (a.calls ++ (ks ++ [.disconnect reason])) := by
      rw [← List.append_assoc]
      exact hbegun.disconnect
    refine leads_of_exit hst hjoined hrequest hgreeted hon.call ?_
    split at ho <;> rename_i hcall
    · refine .inr ⟨ho, .inr hcomplete, .inl fun hcalm => ?_⟩
      rw [call_of_calm hcalm] at hcall
      cases hcall
    · exact .inl ⟨ho, hcomplete⟩
  · refine leads_of_enter hst hon.sessions hon.calls
      ⟨⟨⟨path, ?_, hroute⟩, hjoined.registered.snoc hon.registry⟩, ?_, hbegun, hgoing⟩
    · simp [hrequest, hasked]
    · simpa using hgreeted _

theorem leads_of_wake {occasion : Occasion} (hst : b.stage? a.session = some (.open c hs d))
    (hfits : (Stage.open c hs d).Fits a)
    (hrequest : ∀ b', Footstep.request? ⟨b, cue, b'⟩ = none) (hon : Onward a b b₁ []) :
    Leads a b cue (b₁.wake a.session now c hs d occasion) := by
  have hbegun : IsBegun (a.calls ++ []) := by
    rw [List.append_nil]
    exact hfits.2.2.1
  refine wake_cases (P := Leads a b cue) (fun _ => ?_) (fun name args _ _ => ?_)
    fun name args _ hbroken => ?_
  · exact leads_of_settle hst hfits hrequest hon hbegun
  · exact leads_of_settle hst hfits hrequest hon.call (List.append_nil a.calls ▸ hbegun).event
  · obtain ⟨hjoined, ⟨rest, hattempts⟩, -, -⟩ := hfits
    refine leads_of_exit hst hjoined hrequest (fun b' => ?_) hon.call
      (.inr ⟨rfl, .inl ?_, .inl fun hcalm => ?_⟩)
    · rw [hattempts]
      exact ⟨_, rfl⟩
    · exact (List.append_nil a.calls ▸ hbegun).event
    · rw [call_of_calm hcalm] at hbroken
      cases hbroken

theorem leads_of_open (hst : b.stage? a.session = some (.open c hs d))
    (hfits : (Stage.open c hs d).Fits a) (h : b.advance now a.session cue = some b') :
    Leads a b cue b' := by
  have hrequest := request?_of_advance h hst Stage.noConfusion
  have hbegun : IsBegun (a.calls ++ []) := by
    rw [List.append_nil]
    exact hfits.2.2.1
  cases sessionMove_of_open hst h with
  | written stage =>
      cases hst.symm.trans stage
      exact leads_of_settle hst hfits hrequest onward_refl hbegun
  | woken stage =>
      cases hst.symm.trans stage
      exact leads_of_wake hst hfits hrequest onward_refl
  | taken stage =>
      cases hst.symm.trans stage
      exact leads_of_wake hst hfits hrequest ⟨rfl, rfl, (List.append_nil _).symm⟩
  | upgrade stage _ free =>
      cases hst.symm.trans stage
      cases free
  | join stage | begin stage | ungreeted stage => cases hst.symm.trans stage

/-- **A step of a session leads to a stage that fits what has happened.** -/
theorem leads_of_advance (hst : b.stage? a.session = some st) (hfits : st.Fits a)
    (hrouter : b.router = a.router) (hbeat : b.heartbeat = a.heartbeat)
    (h : b.advance now a.session cue = some b') : Leads a b cue b' := by
  cases st with
  | handshaking => exact leads_of_handshaking hst hfits hrouter h
  | rejecting path => exact leads_of_rejecting hst hfits hbeat h
  | granting ns hs => exact leads_of_granting hst hfits hbeat h
  | refusing limit frames => exact leads_of_refusing hst hfits hbeat h
  | greeting c hs => exact leads_of_greeting hst hfits hbeat h
  | «open» c hs d => exact leads_of_open hst hfits h
  | ended o => simp [advance, hst] at h

/-! ## Runs -/

def account (b : Switchboard) (peer : Net.SocketAddress) (ds : List Deed)
    (ks : List CallKind) : Account where
  router := b.router
  heartbeat := b.heartbeat
  session := b.sessions.length
  steps := (b.accept peer).footsteps b.sessions.length ds
  calls := ks

theorem account_snoc_of_other {peer : Net.SocketAddress}
    (hrun : (b.accept peer).performAll ds = some b₁) (hdeed : b₁.perform deed = some b')
    (hother : deed.isOf b.sessions.length = false) :
    b.account peer (ds ++ [deed]) ks = b.account peer ds ks := by
  rw [account, footsteps_snoc hrun hdeed, footstep?_of_other hother, Option.toList_none,
    List.append_nil]
  rfl

theorem account_snoc_of_own {peer : Net.SocketAddress} {ks' : List CallKind}
    (hrun : (b.accept peer).performAll ds = some b₁)
    (hdeed : b₁.perform (.session now b.sessions.length cue) = some b') :
    b.account peer (ds ++ [.session now b.sessions.length cue]) (ks ++ ks') =
      (b.account peer ds ks).extend ⟨b₁, cue, b'⟩ ks' := by
  rw [account, footsteps_snoc hrun hdeed, footstep?, if_pos rfl]
  rfl

/-- **At every stage the account of a session fits.** -/
theorem fits_of_performAll {peer : Net.SocketAddress}
    (hrun : (b.accept peer).performAll ds = some b')
    (hfree : ∀ o, .cutOff b.sessions.length o ∉ ds) :
    b.Fixed b' ∧ ∃ st ks, b'.stage? b.sessions.length = some st ∧
      b'.callsOf b.sessions.length = b.callsOf b.sessions.length ++ ks ∧
      st.Fits (b.account peer ds ks) := by
  -- the deeds are taken from the end, so that each of them is the last footstep or none
  refine performAll_induction (P := fun ds b' => (∀ o, .cutOff b.sessions.length o ∉ ds) →
    b.Fixed b' ∧ ∃ st ks, b'.stage? b.sessions.length = some st ∧
      b'.callsOf b.sessions.length = b.callsOf b.sessions.length ++ ks ∧
      st.Fits (b.account peer ds ks)) hrun (fun _ => ?_)
    (fun ds b₁ deed b' hrun₁ ih hdeed hfree => ?_) hfree
  · refine ⟨⟨rfl, rfl⟩, .handshaking, [], ?_, (List.append_nil _).symm, rfl, rfl⟩
    rw [stage?_accept, if_pos rfl]
  · have hfree₁ : ∀ o, .cutOff b.sessions.length o ∉ ds :=
      fun o hmem => hfree o (List.mem_append_left _ hmem)
    obtain ⟨hfixed, st, ks, hst, hcalls, hfits⟩ := ih hfree₁
    by_cases hother : deed.isOf b.sessions.length = false
    · -- the session is where it was
      obtain ⟨hfixed', hstage, hsame⟩ := spared_of_perform hst hdeed hother
      refine ⟨hfixed.trans hfixed', st, ks, hstage.trans hst, hsame.trans hcalls, ?_⟩
      rw [account_snoc_of_other hrun₁ hdeed hother]
      exact hfits
    · rcases Deed.own_cases hother with ⟨now, cue, rfl⟩ | ⟨o, rfl⟩
      · obtain ⟨st', ks', hst', hcalls', hfits'⟩ := leads_of_advance
          (a := b.account peer ds ks) hst hfits hfixed.router hfixed.heartbeat hdeed
        refine ⟨hfixed.trans (fixed_of_advance hdeed), st', ks ++ ks', hst', ?_, ?_⟩
        · rw [← List.append_assoc, ← hcalls]
          exact hcalls'
        · rw [account_snoc_of_own hrun₁ hdeed]
          exact hfits'
      · exact absurd (List.mem_append_right _ (List.mem_singleton.mpr rfl)) (hfree o)

/-- A session that has not ended can go on. -/
theorem exists_advance (hst : b.stage? a.session = some st) (hfits : st.Fits a)
    (hlive : st.isLive = true) : ∃ cue b', b.advance now a.session cue = some b' := by
  -- the upgrade may fail, whatever has to be written may fail to be, and the clock may tick
  cases st with
  | handshaking => exact ⟨.upgradeFailed .wrongMethod, _, by simp [advance, hst]; rfl⟩
  | «open» c hs d =>
      cases hmode : d.mode with
      | waiting => exact ⟨.tick, _, by simp [advance, hst, hmode]; rfl⟩
      | writing f next => exact ⟨.writeFailed .wrongMethod, _, by simp [advance, hst, hmode]; rfl⟩
      | «over» reason => exact absurd hmode (hfits.2.2.2 reason)
  | ended o => cases hlive
  | _ => exact ⟨.writeFailed .wrongMethod, _, by simp [advance, hst]; rfl⟩

/-! ## The main result -/

/-- **A session departs in one way.** Take any switchboard, with any router and any connections in
its registry, and a stream that is accepted on it; then any deeds of this session and of others,
with any answers of its client and any failures to read or write, as long as it is not cut off.

* When the session has ended, exactly one of the ways to end describes what was written and what the
  client reads in it, what was done to the registry, which calls its handlers had, and what it
  returned.
* Until then it can go on. -/
theorem departs_one_way {peer : Net.SocketAddress}
    (hrun : (b.accept peer).performAll ds = some b')
    (hfree : ∀ o, .cutOff b.sessions.length o ∉ ds) :
    ∃ ks, b'.callsOf b.sessions.length = b.callsOf b.sessions.length ++ ks ∧
      (∀ o, b'.stage? b.sessions.length = some (.ended o) →
        ∃! way : Departure, way.Describes (b.account peer ds ks) o) ∧
      ((∀ o, b'.stage? b.sessions.length ≠ some (.ended o)) →
        ∀ now, ∃ cue b'', b'.advance now b.sessions.length cue = some b'') := by
  obtain ⟨-, st, ks, hst, hcalls, hfits⟩ := fits_of_performAll hrun hfree
  refine ⟨ks, hcalls, fun o ho => ?_, fun hlive now => ?_⟩
  · cases hst.symm.trans ho
    obtain ⟨way, hway⟩ := hfits
    refine ⟨way, hway, fun way' hway' => ?_⟩
    rw [Departure.eq_ofAttempts hway, Departure.eq_ofAttempts hway']
  · refine exists_advance (a := b.account peer ds ks) hst hfits ?_
    cases st with
    | ended o => exact absurd hst (hlive o)
    | _ => rfl

def roomy : Switchboard := fresh (.shared ["/a"] (.standard "restart")) ⟨25000, 20000⟩ 1

/-- For each way a board and what a session does there: the client is no WebSocket client, asks for a
path that is not served, finds the room taken by a connection that leaves in the meantime, is gone
before it can be greeted, or is greeted and closes the connection. -/
def leaving : Departure → Switchboard × List Deed
  | .unopened => (roomy, [.session 0 0 (.upgradeFailed .wrongMethod)])
  | .unserved => (roomy, [.session 0 0 (.requested "/b"), .session 0 0 .wrote])
  | .refused => ((roomy.registerLoose .root).2,
      [.session 0 0 (.requested "a/"), .session 0 0 .wrote, .session 0 0 .wrote,
        .drain CloseCode.away "", .session 0 0 .wrote])
  | .ungreeted => (roomy,
      [.session 0 0 (.requested "a/"), .session 0 0 .wrote,
        .session 0 0 (.writeFailed .wrongMethod)])
  | .greeted => (roomy,
      [.session 0 0 (.requested "a/"), .session 0 0 .wrote, .session 0 0 .wrote,
        .session 7 0 (.inbound (.close none))])

/-- Each of the ways describes the session that leaves so. -/
theorem departs_one_way_each : ∃ o : Departure → Outcome, ∀ way : Departure, ∃ b' ks,
    ((leaving way).1.accept Gateway.smallAddress).performAll (leaving way).2 = some b' ∧
      (∀ o, .cutOff (leaving way).1.sessions.length o ∉ (leaving way).2) ∧
      b'.stage? (leaving way).1.sessions.length = some (.ended (o way)) ∧
      way.Describes ((leaving way).1.account Gateway.smallAddress (leaving way).2 ks) (o way) := by
  have hends : ∀ way, ∃ o b',
      ((leaving way).1.accept Gateway.smallAddress).performAll (leaving way).2 = some b' ∧
        b'.stage? (leaving way).1.sessions.length = some (.ended o) := by
    intro way
    cases way
    all_goals exact ⟨_, _, rfl, rfl⟩
  have hfree : ∀ way o, .cutOff (leaving way).1.sessions.length o ∉ (leaving way).2 := by
    intro way o
    cases way
    all_goals simp [leaving]
  -- what was written tells the way, whatever the handlers were called for
  have hwritten : ∀ way, Departure.ofAttempts
      ((leaving way).1.account Gateway.smallAddress (leaving way).2 []).attempts = way := by
    intro way
    cases way
    all_goals decide +kernel
  choose o hends using hends
  refine ⟨o, fun way => ?_⟩
  obtain ⟨b', hrun, hstage⟩ := hends way
  obtain ⟨ks, -, hended, -⟩ := departs_one_way hrun (hfree way)
  have hway := Departure.describes_ofAttempts (hended _ hstage)
  have htold : Departure.ofAttempts
      ((leaving way).1.account Gateway.smallAddress (leaving way).2 ks).attempts = way :=
    hwritten way
  rw [htold] at hway
  exact ⟨b', ks, hrun, hfree way, hstage, hway⟩

end Switchboard

end SocketGateway
