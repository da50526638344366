import SocketGateway.Proofs.Dealings

/-!
# What is put into a mailbox

A mailbox has many who put frames into it: the handlers of its own session, whoever has kept a socket,
and those who drain the registry. What each deed has for a mailbox is told from the deed, not from the
mailbox: `posted`. Whatever other sessions do, that and nothing else comes to lie in it, behind what was
there. This rests on every session having a mailbox of its own, which holds in every state that a
switchboard can be in.
-/

namespace SocketGateway

open SocketGateway.Wire (CloseCode Frame)

namespace Mailroom

variable {m m' m'' : Mailroom} {j k : MailboxId} {f : Frame} {fs fs' : List Frame}

/-! ## A single mailbox -/

/-- **A mailbox gets frames**, if somebody takes them out; whether somebody does is left as it was. -/
structure Gets (k : MailboxId) (fs : List Frame) (m m' : Mailroom) : Prop where
  next : m.next ≤ m'.next
  receiving : m'.isReceiving k = m.isReceiving k
  frames : m'.frames k = m.frames k ++ if m.isReceiving k = true then fs else []

theorem Gets.refl : Gets k [] m m := ⟨Nat.le_refl _, rfl, by simp⟩

theorem Gets.trans (h : Gets k fs m m') (h' : Gets k fs' m' m'') : Gets k (fs ++ fs') m m'' := by
  refine ⟨Nat.le_trans h.next h'.next, h'.receiving.trans h.receiving, ?_⟩
  rw [h'.frames, h.frames, h.receiving]
  split <;> simp

theorem gets_post : Gets k (if j = k then [f] else []) m (m.post j f).2 := by
  refine ⟨Nat.le_of_eq next_post.symm, isReceiving_post, ?_⟩
  rw [frames_post]
  by_cases hjk : j = k
  · subst hjk
    by_cases hr : m.isReceiving j = true <;> simp [hr]
  · simp [hjk]

theorem gets_create (hk : k < m.next) : Gets k [] m m.create := by
  refine ⟨?_, ?_, by simp⟩
  · rw [next_create]
    exact Nat.le_succ _
  · rw [isReceiving_create, if_neg (Nat.ne_of_lt hk)]

theorem gets_hangUp (h : j ≠ k) : Gets k [] m (m.hangUp j) := by
  refine ⟨Nat.le_of_eq next_hangUp.symm, ?_, ?_⟩
  · rw [isReceiving_hangUp, if_neg h]
  · rw [frames_hangUp_of_ne h]
    simp

theorem gets_take (h : m.take j = (some f, m')) (hjk : j ≠ k) : Gets k [] m m' := by
  obtain ⟨-, hothers, hreceiving⟩ := take_spec h
  refine ⟨Nat.le_of_eq (next_take h).symm, hreceiving k, ?_⟩
  rw [hothers k hjk.symm]
  simp

theorem gets_closeAll {code : CloseCode} {reason : String} {cs : List Connection} :
    Gets k ((cs.filter (·.mailbox = k)).map fun _ => .closing code reason) m
      (Registry.closeAll code reason cs m) where
  next := Nat.le_of_eq Registry.next_closeAll.symm
  receiving := by
    induction cs generalizing m with
    | nil => rfl
    | cons c cs ih => rw [Registry.closeAll_cons, ih, isReceiving_post]
  frames := Registry.frames_closeAll

end Mailroom

open Mailroom (Gets)

/-- To send a frame through a socket is to put it into the mailbox. -/
theorem Socket.send_snd {s : Socket} {m : Mailroom} {f : Frame} :
    (s.send m f).2 = (m.post s.mailbox f).2 := by
  unfold send
  split <;> simp_all

/-- What a handler puts into the mailbox of its connection, up to a breakdown. -/
def Reaction.frames : List Reaction → List Frame
  | [] => []
  | .emit name args :: rs => Socket.eventFrame name args :: frames rs
  | .close reason :: rs => .closing CloseCode.normal reason :: frames rs
  | .restart :: rs => frames rs
  | .panic :: _ => []

def HandlerSet.frames (hs : HandlerSet) (k : MailboxId) (calls : List Call) : List Frame :=
  calls.flatMap fun call =>
    if call.socket.mailbox = k then Reaction.frames (hs.reactions call.kind) else []

namespace Switchboard

variable {b b₁ b₂ b' : Switchboard} {now i j : Nat} {cue : Cue} {c : Connection} {st : Stage}
  {hs : HandlerSet} {d : Drive} {deed : Deed} {ds : List Deed} {k : MailboxId} {kind : CallKind}
  {s : Socket} {rs : List Reaction} {o : Outcome}

/-! ## What a deed has for a mailbox -/

def newCalls (b b' : Switchboard) : List Call :=
  (b'.calls.take (b'.calls.length - b.calls.length)).reverse

def handlersOf (b : Switchboard) (j : Nat) : HandlerSet :=
  ((b.stage? j).bind (·.handlers?)).getD { onEvent := fun _ _ => [] }

def offered (k : MailboxId) (b : Switchboard) (deed : Deed) (b' : Switchboard) : List Frame :=
  match deed with
  | .session _ j _ => (b.handlersOf j).frames k (newCalls b b')
  | .drain code reason =>
    (b.registry.connections.values.filter (·.mailbox = k)).map fun _ => .closing code reason
  | .emit s name args => if s.mailbox = k then [Socket.eventFrame name args] else []
  | .close s reason => if s.mailbox = k then [.closing CloseCode.normal reason] else []
  | _ => []

/-- **What a deed puts into a mailbox**: nothing if nobody takes frames out of it. -/
def posted (k : MailboxId) (b : Switchboard) (deed : Deed) (b' : Switchboard) : List Frame :=
  if b.rooms.isReceiving k = true then offered k b deed b' else []

theorem newCalls_eq {calls : List Call} (h : b'.calls = calls.reverse ++ b.calls) :
    newCalls b b' = calls := by
  simp [newCalls, h]

theorem handlersOf_of_stage? (hst : b.stage? j = some st) (hhs : st.handlers? = some hs) :
    b.handlersOf j = hs := by
  simp [handlersOf, hst, hhs]

theorem posted_of_gone (h : b.rooms.isReceiving k = false) : posted k b deed b' = [] := by
  simp [posted, h]

/-! ## Every session has a mailbox of its own -/

/-- **Sessions receive from mailboxes of their own.** -/
structure Housed (b : Switchboard) : Prop where
  receiving : ∀ i c, b.connection? i = some c → b.rooms.isReceiving c.mailbox = true
  apart : ∀ i j c d, b.connection? i = some c → b.connection? j = some d →
    c.mailbox = d.mailbox → i = j

namespace Housed

theorem fresh {router : Router HandlerSet} {beat : Config.Heartbeat} {limit : Nat} :
    (fresh router beat limit).Housed := by
  constructor <;> intros <;> simp_all [Switchboard.fresh, connection?, stage?]

theorem mailbox_lt (h : b.Housed) (hi : b.connection? i = some c) : c.mailbox < b.rooms.next :=
  Mailroom.lt_next_of_isReceiving (h.receiving i c hi)

/-- Who has a connection had it before, and still receives. -/
theorem of_connections (h : b.Housed)
    (hconn : ∀ j c, b'.connection? j = some c → b.connection? j = some c)
    (hreceiving : ∀ j c, b'.connection? j = some c → b.rooms.isReceiving c.mailbox = true →
      b'.rooms.isReceiving c.mailbox = true) : b'.Housed where
  receiving j c hj := hreceiving j c hj (h.receiving j c (hconn j c hj))
  apart i j c d hi hj := h.apart i j c d (hconn i c hi) (hconn j d hj)

theorem of_aside (h : b.Housed) (ha : b.Aside b') : b'.Housed :=
  h.of_connections (fun _ _ hj => (connection?_congr ha.sessions).symm.trans hj)
    fun _ _ _ hr => ha.rooms.receiving _ hr

/-- A session enters a stage with the connection it had, or with none. -/
theorem enter (h : b.Housed) (hst : b.stage? i = some st) {st' : Stage}
    (hsame : ∀ c, st'.connection? = some c → st.connection? = some c) : (b.enter i st').Housed := by
  refine h.of_connections (fun j c hj => ?_) fun _ _ _ hr => hr
  by_cases hij : i = j
  · subst hij
    rw [connection?_enter_self hst] at hj
    exact (connection?_of_stage? hst).trans (hsame c hj)
  · exact (connection?_enter_of_ne hij).symm.trans hj

/-- A session gives up its connection and its mailbox. -/
theorem exit (h : b.Housed) (hi : b.connection? i = some c) : (b.exit i c o).Housed := by
  obtain ⟨st, hst, -⟩ := exists_stage?_of_connection? hi
  have hother : ∀ j d, (b.exit i c o).connection? j = some d →
      i ≠ j ∧ b.connection? j = some d := by
    intro j d hj
    by_cases hij : i = j
    · subst hij
      have hself : (b.exit i c o).connection? i = none :=
        connection?_enter_self (b := b.leave c) hst
      cases hself.symm.trans hj
    · exact ⟨hij, (connection?_enter_of_ne (b := b.leave c) hij).symm.trans hj⟩
  refine h.of_connections (fun j d hj => (hother j d hj).2) fun j d hj hr => ?_
  obtain ⟨hij, hj⟩ := hother j d hj
  show (b.rooms.hangUp c.mailbox).isReceiving d.mailbox = true
  rw [Mailroom.isReceiving_hangUp, if_neg fun hm => hij (h.apart i j c d hi hj hm)]
  exact hr

theorem exit_after_call (h : b.Housed) (hi : b.connection? i = some c) :
    ((b.call i c hs kind).1.exit i c o).Housed :=
  (h.of_aside aside_call).exit ((connection?_congr aside_call.sessions).trans hi)

theorem settle (h : b.Housed) (hi : b.connection? i = some c) : (b.settle i c hs d).Housed := by
  obtain ⟨st, hst, hc⟩ := exists_stage?_of_connection? hi
  refine settle_cases (fun _ _ _ _ => h.exit_after_call hi) fun _ => h.enter hst fun e he => ?_
  cases he
  exact hc

theorem wake {occasion : Occasion} (h : b.Housed) (hi : b.connection? i = some c) :
    (b.wake i now c hs d occasion).Housed := by
  refine wake_cases (fun _ => h.settle hi) (fun _ _ _ _ => ?_) fun _ _ _ _ => h.exit_after_call hi
  exact (h.of_aside aside_call).settle ((connection?_congr aside_call.sessions).trans hi)

/-- **The newest mailbox** is nobody's but the new connection's. -/
theorem joined (h : b.Housed) {registry : Registry} (hst : b.stage? i = some st)
    (hnew : c.mailbox = b.rooms.next) :
    (({ b with rooms := b.rooms.create, registry := registry } : Switchboard).enter i
      (.greeting c hs)).Housed := by
  have hother : ∀ j d, (({ b with rooms := b.rooms.create, registry := registry } :
      Switchboard).enter i (.greeting c hs)).connection? j = some d →
      i = j ∧ d = c ∨ b.connection? j = some d ∧ d.mailbox ≠ c.mailbox := by
    intro j d hj
    by_cases hij : i = j
    · subst hij
      rw [connection?_enter_self (b := { b with rooms := b.rooms.create, registry := registry })
        hst] at hj
      exact .inl ⟨rfl, (Option.some.inj hj).symm⟩
    · have hj : b.connection? j = some d := (connection?_enter_of_ne hij).symm.trans hj
      exact .inr ⟨hj, hnew ▸ Nat.ne_of_lt (h.mailbox_lt hj)⟩
  constructor
  · intro j d hj
    show b.rooms.create.isReceiving d.mailbox = true
    rcases hother j d hj with ⟨-, rfl⟩ | ⟨hj, -⟩
    · rw [Mailroom.isReceiving_create, if_pos hnew]
    · exact Mailroom.grows_create.receiving _ (h.receiving j d hj)
  · intro j l d e hj hl hm
    rcases hother j d hj with ⟨rfl, rfl⟩ | ⟨hj, hd⟩ <;>
      rcases hother l e hl with ⟨rfl, rfl⟩ | ⟨hl, he⟩
    · rfl
    · exact absurd hm.symm he
    · exact absurd hm hd
    · exact h.apart j l d e hj hl hm

/-- A mailbox that is set up and given up at once was nobody's. -/
theorem refused (h : b.Housed) :
    ({ b with rooms := b.rooms.create.hangUp b.rooms.next } : Switchboard).Housed := by
  refine h.of_connections (fun _ _ hj => hj) fun j c hj hr => ?_
  have hne : b.rooms.next ≠ c.mailbox := Nat.ne_of_gt (h.mailbox_lt hj)
  show (b.rooms.create.hangUp b.rooms.next).isReceiving c.mailbox = true
  rw [Mailroom.isReceiving_hangUp, if_neg hne]
  exact Mailroom.grows_create.receiving _ hr

theorem sessionMove (h : b.Housed) (hmove : SessionMove b now i b') : b'.Housed := by
  cases hmove with
  | upgrade stage _ _ _ free' =>
      refine h.enter stage fun c hc => ?_
      cases free'.symm.trans hc
  | join stage =>
      refine join_cases (fun _ _ => h.joined stage rfl) fun _ _ => h.refused.enter stage ?_
      exact fun _ hc => by cases hc
  | begin stage =>
      refine begin_cases (fun _ _ => ?_) fun _ => h.exit_after_call (connection?_of_stage? stage)
      exact (h.of_aside aside_call).enter ((stage?_congr aside_call.sessions).trans stage)
        fun _ hc => hc
  | ungreeted stage => exact h.exit (connection?_of_stage? stage)
  | written stage => exact h.settle (connection?_of_stage? stage)
  | woken stage => exact h.wake (connection?_of_stage? stage)
  | @taken c _ _ f rooms stage _ take =>
      have hrooms : ({ b with rooms := rooms } : Switchboard).Housed := by
        refine h.of_connections (fun _ _ hj => hj) fun _ _ _ hr => ?_
        exact ((Mailroom.take_spec take).2.2 _).trans hr
      exact hrooms.wake (connection?_of_stage? stage)

/-- **Every deed leaves sessions with mailboxes of their own.** -/
theorem perform (h : b.Housed) (hdeed : b.perform deed = some b') : b'.Housed := by
  cases deed with
  | accept peer =>
      cases hdeed
      refine h.of_connections (fun j c hj => ?_) fun _ _ _ hr => hr
      obtain ⟨st, hst, hc⟩ := exists_stage?_of_connection? hj
      rw [stage?_accept] at hst
      split at hst
      · cases hst
        cases hc
      · exact (connection?_of_stage? hst).trans hc
  | session now i cue => exact h.sessionMove (sessionMove_of_advance hdeed)
  | cutOff i o =>
      obtain ⟨st, hst, -, ⟨c, hc, rfl⟩ | ⟨-, rfl⟩⟩ := cutOff_cases hdeed
      · exact h.exit ((connection?_of_stage? hst).trans hc)
      · exact h.enter hst fun _ hc => by cases hc
  | drain code reason =>
      cases hdeed
      exact h.of_connections (fun _ _ hj => hj)
        fun _ _ _ hr => Registry.grows_closeAll.receiving _ hr
  | request =>
      cases hdeed
      exact h.of_aside aside_request
  | transition source target =>
      cases hdeed
      exact h.of_aside aside_transition
  | emit s name args =>
      cases hdeed
      exact h.of_aside aside_emit
  | close s reason =>
      cases hdeed
      exact h.of_aside aside_close
  | register ns =>
      cases hdeed
      refine registerLoose_cases (P := Housed) (fun registry => ?_) h.refused
      exact h.of_connections (fun _ _ hj => hj)
        fun _ _ _ hr => Mailroom.grows_create.receiving _ hr

theorem performAll (h : b.Housed) (hrun : b.performAll ds = some b') : b'.Housed :=
  performAll_induction (P := fun _ b => b.Housed) hrun h
    fun _ _ _ _ _ hmid hdeed => hmid.perform hdeed

end Housed

/-! ## What handlers put into a mailbox -/

theorem gets_react :
    Gets k (if s.mailbox = k then Reaction.frames rs else []) b.rooms (b.react s rs).1.rooms := by
  have hsent : ∀ (b : Switchboard) (f : Frame), Gets k (if s.mailbox = k then [f] else []) b.rooms
      (s.send b.rooms f).2 := by
    intro b f
    rw [Socket.send_snd]
    exact Mailroom.gets_post
  induction rs generalizing b with
  | nil =>
      rw [Reaction.frames, ite_self]
      exact .refl
  | cons r rs ih =>
      cases r with
      | emit name args =>
          have h := (hsent b (Socket.eventFrame name args)).trans
            (ih (b := { b with rooms := (s.emit b.rooms name args).2 }))
          by_cases hk : s.mailbox = k <;> simpa [hk, Reaction.frames, react] using h
      | close reason =>
          have h := (hsent b (.closing CloseCode.normal reason)).trans
            (ih (b := { b with rooms := (s.close b.rooms reason).2 }))
          by_cases hk : s.mailbox = k <;> simpa [hk, Reaction.frames, react] using h
      | restart => exact ih (b := b.request.2)
      | panic =>
          rw [Reaction.frames, ite_self]
          exact .refl

def HasPut (k : MailboxId) (hs : HandlerSet) (b b' : Switchboard) : Prop :=
  ∃ calls : List Call, b'.calls = calls.reverse ++ b.calls ∧
    Gets k (hs.frames k calls) b.rooms b'.rooms

namespace HasPut

/-- No handler was called. -/
theorem of_rooms (hcalls : b'.calls = b.calls) (hrooms : Gets k [] b.rooms b'.rooms) :
    HasPut k hs b b' := ⟨[], hcalls, hrooms⟩

theorem refl : HasPut k hs b b := .of_rooms rfl .refl

theorem trans (h : HasPut k hs b b₁) (h' : HasPut k hs b₁ b') : HasPut k hs b b' := by
  obtain ⟨calls, hcalls, hrooms⟩ := h
  obtain ⟨calls', hcalls', hrooms'⟩ := h'
  refine ⟨calls ++ calls', ?_, ?_⟩
  · rw [hcalls', hcalls, List.reverse_append, List.append_assoc]
  · rw [HandlerSet.frames, List.flatMap_append]
    exact hrooms.trans hrooms'

theorem call : HasPut k hs b (b.call i c hs kind).1 := by
  refine ⟨[⟨i, c.socket, kind⟩], calls_call, ?_⟩
  rw [HandlerSet.frames, List.flatMap_singleton]
  exact gets_react (b := b.note i c kind)

/-- **What a session's handlers put into a mailbox** is what its deed has for it. -/
theorem gets (now : Nat) (cue : Cue) (h : HasPut k (b.handlersOf j) b b') :
    Gets k (offered k b (.session now j cue) b') b.rooms b'.rooms := by
  obtain ⟨calls, hcalls, hrooms⟩ := h
  rw [offered, newCalls_eq hcalls]
  exact hrooms

end HasPut

/-- How a session with a connection fares, as far as a mailbox is concerned: its handlers put frames
into it; and then the session gives it up, or else stays open if it is its own. -/
inductive Fares (k : MailboxId) (i : Nat) (c : Connection) (hs : HandlerSet) (b : Switchboard) :
    Switchboard → Prop
  | on {b' : Switchboard} (puts : HasPut k hs b b')
      (stage : c.mailbox = k → ∃ d, b'.stage? i = some (.open c hs d)) : Fares k i c hs b b'
  | off {b₁ : Switchboard} {o : Outcome} (own : c.mailbox = k) (puts : HasPut k hs b b₁)
      (sessions : b₁.sessions = b.sessions) : Fares k i c hs b (b₁.exit i c o)

namespace Fares

theorem hasPut (h : Fares k i c hs b b') (hother : c.mailbox ≠ k) : HasPut k hs b b' := by
  cases h with
  | on puts => exact puts
  | off own => exact absurd own hother

theorem next_le (h : Fares k i c hs b b') : b.rooms.next ≤ b'.rooms.next := by
  cases h with
  | on puts =>
      obtain ⟨_, -, hrooms⟩ := puts
      exact hrooms.next
  | off own puts =>
      obtain ⟨_, -, hrooms⟩ := puts
      exact Nat.le_trans hrooms.next (Nat.le_of_eq Mailroom.next_hangUp.symm)

theorem exit (puts : HasPut k hs b b₁) (sessions : b₁.sessions = b.sessions) :
    Fares k i c hs b (b₁.exit i c o) := by
  by_cases hk : c.mailbox = k
  · exact .off hk puts sessions
  · have hleft : HasPut k hs b₁ (b₁.exit i c o) := .of_rooms rfl (Mailroom.gets_hangUp hk)
    exact .on (puts.trans hleft) fun hown => absurd hown hk

theorem settle (hst : b.stage? i = some st) (puts : HasPut k hs b b₁)
    (sessions : b₁.sessions = b.sessions) : Fares k i c hs b (b₁.settle i c hs d) := by
  refine settle_cases (fun _ _ o _ => ?_) fun _ => ?_
  · exact .exit (puts.trans .call) (aside_call.sessions.trans sessions)
  · have hentered : HasPut k hs b₁ (b₁.enter i (.open c hs d)) := .of_rooms rfl .refl
    exact .on (puts.trans hentered)
      fun _ => ⟨d, stage?_enter_self ((stage?_congr sessions).trans hst)⟩

theorem wake {occasion : Occasion} (hst : b.stage? i = some st) :
    Fares k i c hs b (b.wake i now c hs d occasion) := by
  refine wake_cases (fun _ => .settle hst .refl rfl) (fun _ _ _ _ => ?_) fun _ _ _ _ => ?_
  · exact .settle hst .call aside_call.sessions
  · exact .exit .call aside_call.sessions

theorem begin (hst : b.stage? i = some st) : Fares k i c hs b (b.begin i now c hs) := by
  refine begin_cases (fun _ _ => ?_) fun _ => .exit .call aside_call.sessions
  have hentered : HasPut k hs (b.call i c hs .connect).1 ((b.call i c hs .connect).1.enter i
      (.open c hs (.start b.heartbeat now))) := .of_rooms rfl .refl
  refine .on (HasPut.call.trans hentered) fun _ => ⟨.start b.heartbeat now, ?_⟩
  exact stage?_enter_self ((stage?_congr aside_call.sessions).trans hst)

end Fares

/-! ## What a deed puts into a mailbox -/

/-- A session puts into the mailbox of another what its handlers have for it. -/
theorem hasPut_of_sessionMove (hk : k < b.rooms.next)
    (hother : ∀ c, b.connection? j = some c → c.mailbox ≠ k) (hmove : SessionMove b now j b') :
    HasPut k (b.handlersOf j) b b' := by
  cases hmove with
  | upgrade => exact .of_rooms rfl .refl
  | join =>
      refine join_cases (fun _ _ => .of_rooms rfl (Mailroom.gets_create hk)) fun _ _ => ?_
      exact .of_rooms rfl
        ((Mailroom.gets_create hk).trans (Mailroom.gets_hangUp (Nat.ne_of_gt hk)))
  | begin stage =>
      rw [handlersOf_of_stage? stage rfl]
      exact (Fares.begin stage).hasPut (hother _ (connection?_of_stage? stage))
  | ungreeted stage =>
      exact .of_rooms rfl (Mailroom.gets_hangUp (hother _ (connection?_of_stage? stage)))
  | written stage =>
      rw [handlersOf_of_stage? stage rfl]
      exact (Fares.settle stage .refl rfl).hasPut (hother _ (connection?_of_stage? stage))
  | woken stage =>
      rw [handlersOf_of_stage? stage rfl]
      exact (Fares.wake stage).hasPut (hother _ (connection?_of_stage? stage))
  | @taken c hs d f rooms stage _ take =>
      have hne : c.mailbox ≠ k := hother _ (connection?_of_stage? stage)
      have htaken : HasPut k hs b { b with rooms := rooms } :=
        .of_rooms rfl (Mailroom.gets_take take hne)
      rw [handlersOf_of_stage? stage rfl]
      exact htaken.trans ((Fares.wake (b := { b with rooms := rooms }) stage).hasPut hne)

/-- **A mailbox gets what deeds have for it**, unless they are of the session that it belongs to. -/
theorem gets_of_perform (hk : k < b.rooms.next)
    (hother : ∀ j c, deed.isOf j = true → b.connection? j = some c → c.mailbox ≠ k)
    (hdeed : b.perform deed = some b') : Gets k (offered k b deed b') b.rooms b'.rooms := by
  cases deed with
  | session now j cue =>
      refine (hasPut_of_sessionMove hk (fun c => ?_) (sessionMove_of_advance hdeed)).gets now cue
      exact hother j c (decide_eq_true rfl)
  | cutOff j o =>
      obtain ⟨st, hst, -, ⟨c, hc, rfl⟩ | ⟨-, rfl⟩⟩ := cutOff_cases hdeed
      · refine Mailroom.gets_hangUp (hother j c (decide_eq_true rfl) ?_)
        exact (connection?_of_stage? hst).trans hc
      · exact .refl
  | drain code reason =>
      cases hdeed
      exact Mailroom.gets_closeAll
  | emit s name args =>
      cases hdeed
      show Gets k _ b.rooms (s.send b.rooms _).2
      rw [Socket.send_snd]
      exact Mailroom.gets_post
  | close s reason =>
      cases hdeed
      show Gets k _ b.rooms (s.send b.rooms _).2
      rw [Socket.send_snd]
      exact Mailroom.gets_post
  | register ns =>
      cases hdeed
      refine registerLoose_cases (P := fun b' => Gets k [] b.rooms b'.rooms) (fun _ => ?_) ?_
      · exact Mailroom.gets_create hk
      · exact (Mailroom.gets_create hk).trans (Mailroom.gets_hangUp (Nat.ne_of_gt hk))
  | _ =>
      cases hdeed
      exact .refl

/-- Mailboxes are set up and never taken down. -/
theorem next_le_of_perform (hdeed : b.perform deed = some b') : b.rooms.next ≤ b'.rooms.next := by
  cases deed with
  | session now j cue =>
      cases sessionMove_of_advance hdeed with
      | upgrade => exact Nat.le_refl _
      | join =>
          refine join_cases (P := fun b' => b.rooms.next ≤ b'.rooms.next) (fun _ _ => ?_)
            fun _ _ => ?_
          · exact (Mailroom.next_create (m := b.rooms)).symm ▸ Nat.le_succ _
          · show b.rooms.next ≤ (b.rooms.create.hangUp b.rooms.next).next
            rw [Mailroom.next_hangUp, Mailroom.next_create]
            exact Nat.le_succ _
      | begin stage => exact (Fares.begin (k := 0) stage).next_le
      | ungreeted => exact Nat.le_of_eq Mailroom.next_hangUp.symm
      | written stage => exact (Fares.settle (k := 0) stage .refl rfl).next_le
      | woken stage => exact (Fares.wake (k := 0) stage).next_le
      | @taken _ _ _ _ rooms stage _ take =>
          refine Nat.le_trans (Nat.le_of_eq (Mailroom.next_take take).symm) ?_
          exact (Fares.wake (k := 0) (b := { b with rooms := rooms }) stage).next_le
  | cutOff j o =>
      obtain ⟨st, -, -, ⟨c, -, rfl⟩ | ⟨-, rfl⟩⟩ := cutOff_cases hdeed
      · exact Nat.le_of_eq Mailroom.next_hangUp.symm
      · exact Nat.le_refl _
  | _ =>
      -- for what is not of a session it does not matter which mailbox is looked at
      rcases Nat.eq_zero_or_pos b.rooms.next with hnone | hsome
      · rw [hnone]
        exact Nat.zero_le _
      · exact (gets_of_perform hsome (fun _ _ hown => by cases hown) hdeed).next

end Switchboard

end SocketGateway
