import SocketGateway.Proofs.Moves

/-!
# Who is in the registry

`Orderly` ties three things to each other: the connections of sessions that have not ended, the
entries of the registry, and the mailboxes. Every session with a connection has a mailbox and an id
of its own; every entry of the registry is the connection of such a session; and a session that is
not in the registry has been told to close. Every deed keeps this, but for the registration of a
connection that no session belongs to.
-/

namespace SocketGateway

open SocketGateway.Wire (CloseCode CloseNotice Frame)

namespace Switchboard

/-- **Sessions, registry and mailboxes agree.** -/
structure Orderly (b : Switchboard) : Prop where
  numbered : ∀ i c, b.connection? i = some c → c.id = Identity.ofNumber c.mailbox
  receiving : ∀ i c, b.connection? i = some c → b.rooms.isReceiving c.mailbox = true
  apart : ∀ i j c d, b.connection? i = some c → b.connection? j = some d →
    c.mailbox = d.mailbox → i = j
  listed : ∀ id c, b.registry.get? id = some c → c.id = id ∧ ∃ i, b.connection? i = some c
  /-- Who is not registered any more was told to close. -/
  told : ∀ i c, b.connection? i = some c → b.registry.contains c.id = false →
    (∃ n, Frame.close n ∈ b.rooms.frames c.mailbox) ∨ b.isClosing i = true

namespace Orderly

variable {b b' : Switchboard} {now i j : Nat} {c d : Connection} {st st' : Stage}
  {hs : HandlerSet} {o : Outcome} {dr : Drive}

/-! ## What follows from it -/

theorem eq_of_id (h : b.Orderly) (hi : b.connection? i = some c) (hj : b.connection? j = some d)
    (hid : c.id = d.id) : i = j := by
  rw [h.numbered i c hi, h.numbered j d hj] at hid
  exact h.apart i j c d hi hj (Identity.ofNumber_injective hid)

theorem id_ne (h : b.Orderly) (hi : b.connection? i = some c) (hj : b.connection? j = some d)
    (hij : i ≠ j) : c.id ≠ d.id := fun hid => hij (h.eq_of_id hi hj hid)

theorem mailbox_ne (h : b.Orderly) (hi : b.connection? i = some c) (hj : b.connection? j = some d)
    (hij : i ≠ j) : c.mailbox ≠ d.mailbox := fun hm => hij (h.apart i j c d hi hj hm)

/-- The entry of a registered session is its own connection. -/
theorem get?_of_contains (h : b.Orderly) (hi : b.connection? i = some c)
    (hc : b.registry.contains c.id = true) : b.registry.get? c.id = some c := by
  rw [Registry.contains_eq, Option.isSome_iff_exists] at hc
  obtain ⟨e, he⟩ := hc
  -- the entry belongs to some session, and by its id that is this one
  obtain ⟨hid, j, hj⟩ := h.listed _ _ he
  obtain rfl := h.eq_of_id hi hj hid.symm
  rw [he, ← hj, hi]

/-- A registry that belongs to sessions is empty when none of them lives. -/
theorem size_eq_zero (h : b.Orderly) (hlive : b.hasLive = false) : b.registry.size = 0 := by
  refine Table.size_eq_zero_of_find? fun id => ?_
  cases hget : b.registry.get? id with
  | none => exact hget
  | some c =>
      obtain ⟨-, i, hi⟩ := h.listed id c hget
      obtain ⟨st, hst, hc⟩ := exists_stage?_of_connection? hi
      have hdead := hasLive_eq_false_iff.mp hlive i st hst
      rw [Stage.isLive_of_connection? hc] at hdead
      cases hdead

/-! ## Steps that keep it -/

theorem fresh {router : Router HandlerSet} {beat : Config.Heartbeat} {limit : Nat} :
    (fresh router beat limit).Orderly := by
  constructor <;> intros <;> simp_all [Switchboard.fresh, connection?, stage?]

/-- **The frame of the invariant.** As long as the connections of sessions stay the same, only what
is said about the registry and the mailboxes has to be looked at again. -/
theorem of_connections (h : b.Orderly) (hconn : ∀ j, b'.connection? j = b.connection? j)
    (hlisted : ∀ id c, b'.registry.get? id = some c → b.registry.get? id = some c)
    (hreceiving : ∀ k, b.rooms.isReceiving k = true → b'.rooms.isReceiving k = true)
    (htold : ∀ j c, b.connection? j = some c → b'.registry.contains c.id = false →
      (∃ n, Frame.close n ∈ b'.rooms.frames c.mailbox) ∨ b'.isClosing j = true) :
    b'.Orderly := by
  constructor <;> simp only [hconn]
  · exact h.numbered
  · exact fun j c hj => hreceiving _ (h.receiving j c hj)
  · exact h.apart
  · exact fun id c hget => h.listed id c (hlisted id c hget)
  · exact htold

/-- Mailboxes may change as long as nobody hangs up and no close frame gets lost. -/
theorem of_rooms (h : b.Orderly) (hsessions : b'.sessions = b.sessions)
    (hregistry : b'.registry = b.registry)
    (hreceiving : ∀ k, b.rooms.isReceiving k = true → b'.rooms.isReceiving k = true)
    (hkept : ∀ k n, Frame.close n ∈ b.rooms.frames k → Frame.close n ∈ b'.rooms.frames k) :
    b'.Orderly := by
  refine h.of_connections (fun _ => connection?_congr hsessions) (by simp [hregistry]) hreceiving ?_
  intro j c hj hc
  rw [hregistry] at hc
  rw [isClosing_congr hsessions]
  exact (h.told j c hj hc).imp_left fun ⟨n, hn⟩ => ⟨n, hkept _ n hn⟩

theorem of_aside (h : b.Orderly) (ha : b.Aside b') : b'.Orderly :=
  h.of_rooms ha.sessions ha.registry ha.rooms.receiving fun _ _ => ha.rooms.mem

/-- A session without a connection enters another stage without one. -/
theorem enter_free (h : b.Orderly) (hst : b.stage? i = some st) (hfree : st.connection? = none)
    (hfree' : st'.connection? = none) : (b.enter i st').Orderly := by
  refine h.of_connections (fun j => ?_) (fun _ _ => id) (fun _ => id) fun j c hj hc => ?_
  · by_cases hij : i = j
    · subst hij
      rw [connection?_enter_self hst, connection?_of_stage? hst, hfree, hfree']
    · exact connection?_enter_of_ne hij
  · have hij : i ≠ j := by
      rintro rfl
      rw [connection?_of_stage? hst, hfree] at hj
      cases hj
    rw [isClosing_enter_of_ne hij]
    exact h.told j c hj hc

/-- A session goes on with its connection. Its mailbox may change, but if the session is not
registered and no close frame is left in it then the session has taken one out. -/
theorem stay (h : b.Orderly) (hi : b.connection? i = some c)
    (hst' : st'.connection? = some c) (hsessions : b'.sessions = (b.enter i st').sessions)
    (hregistry : b'.registry = b.registry)
    (hreceiving : ∀ k, b.rooms.isReceiving k = true → b'.rooms.isReceiving k = true)
    (hkept : ∀ k, k ≠ c.mailbox → b'.rooms.frames k = b.rooms.frames k)
    (htold : b.registry.contains c.id = false →
      (∃ n, Frame.close n ∈ b'.rooms.frames c.mailbox) ∨ st'.isClosing = true) :
    b'.Orderly := by
  obtain ⟨st, hst, -⟩ := exists_stage?_of_connection? hi
  refine h.of_connections (fun j => ?_) (by simp [hregistry]) hreceiving fun j d hj hd => ?_
  · rw [connection?_congr hsessions]
    by_cases hij : i = j
    · subst hij
      rw [connection?_enter_self hst, hst', hi]
    · exact connection?_enter_of_ne hij
  · rw [hregistry] at hd
    rw [isClosing_congr hsessions]
    by_cases hij : i = j
    · subst hij
      obtain rfl : c = d := Option.some.inj (hi.symm.trans hj)
      rw [isClosing_enter_self hst]
      exact htold hd
    · -- no other session has this mailbox
      rw [isClosing_enter_of_ne hij, hkept _ (h.mailbox_ne hi hj hij).symm]
      exact h.told j d hj hd

/-- A session that has not taken a close frame enters another stage with its connection. -/
theorem enter_open (h : b.Orderly) (hi : b.connection? i = some c)
    (hclosing : b.isClosing i = false) (hst' : st'.connection? = some c) :
    (b.enter i st').Orderly := by
  refine h.stay hi hst' rfl rfl (fun _ => id) (fun _ _ => rfl) fun hc => .inl ?_
  rcases h.told i c hi hc with hmem | hclosed
  · exact hmem
  · rw [hclosing] at hclosed
    cases hclosed

/-- A session ends and takes its connection with it. -/
theorem exit (h : b.Orderly) (hi : b.connection? i = some c) : (b.exit i c o).Orderly := by
  obtain ⟨st, hst, -⟩ := exists_stage?_of_connection? hi
  have hself : (b.exit i c o).connection? i = none :=
    connection?_enter_self (b := b.leave c) hst
  -- who still has a connection is another session, and had it before
  have hother : ∀ j d, (b.exit i c o).connection? j = some d → i ≠ j ∧ b.connection? j = some d := by
    intro j d hj
    by_cases hij : i = j
    · subst hij
      rw [hself] at hj
      cases hj
    · exact ⟨hij, (connection?_enter_of_ne (b := b.leave c) hij).symm.trans hj⟩
  constructor
  · intro j d hj
    exact h.numbered j d (hother j d hj).2
  · intro j d hj
    obtain ⟨hij, hj⟩ := hother j d hj
    show (b.rooms.hangUp c.mailbox).isReceiving d.mailbox = true
    rw [Mailroom.isReceiving_hangUp, if_neg (h.mailbox_ne hi hj hij)]
    exact h.receiving j d hj
  · intro j k d e hj hk
    exact h.apart j k d e (hother j d hj).2 (hother k e hk).2
  · intro id d hget
    change (b.registry.remove c.id).2.get? id = some d at hget
    rw [Registry.get?_remove] at hget
    split at hget
    · cases hget
    · rename_i hid
      obtain ⟨hd, j, hj⟩ := h.listed id d hget
      have hij : i ≠ j := by
        rintro rfl
        obtain rfl : c = d := Option.some.inj (hi.symm.trans hj)
        exact hid hd
      exact ⟨hd, j, (connection?_enter_of_ne (b := b.leave c) hij).trans hj⟩
  · intro j d hj hd
    obtain ⟨hij, hj⟩ := hother j d hj
    change ((b.registry.remove c.id).2.get? d.id).isSome = false at hd
    rw [Registry.get?_remove, if_neg (h.id_ne hi hj hij)] at hd
    show (∃ n, Frame.close n ∈ (b.rooms.hangUp c.mailbox).frames d.mailbox) ∨
      ((b.leave c).enter i (.ended o)).isClosing j = true
    rw [isClosing_enter_of_ne hij, Mailroom.frames_hangUp_of_ne (h.mailbox_ne hi hj hij)]
    exact h.told j d hj hd

/-- Handlers are called while a session has its connection; after that it may exit. -/
theorem exit_after_call {k : CallKind} (h : b.Orderly) (hi : b.connection? i = some c) :
    ((b.call i c hs k).1.exit i c o).Orderly :=
  (h.of_aside aside_call).exit ((connection?_congr aside_call.sessions).trans hi)

/-- An open connection settles: unless it is over, no close frame was taken for it before. -/
theorem settle (h : b.Orderly) (hi : b.connection? i = some c)
    (hclosing : b.isClosing i = false ∨ ∃ reason, dr.mode = .over reason) :
    (b.settle i c hs dr).Orderly := by
  refine settle_cases (fun _ _ _ _ => h.exit_after_call hi) fun hon => ?_
  rcases hclosing with hclosing | ⟨reason, hover⟩
  · exact h.enter_open hi hclosing rfl
  · exact absurd hover (hon reason)

/-- A session that has not taken a close frame wakes up. -/
theorem wake {occasion : Occasion} (h : b.Orderly) (hi : b.connection? i = some c)
    (hclosing : b.isClosing i = false) : (b.wake i now c hs dr occasion).Orderly := by
  refine wake_cases (fun _ => h.settle hi (.inl hclosing)) (fun name args _ _ => ?_)
    fun _ _ _ _ => h.exit_after_call hi
  have hsessions : (b.call i c hs (.event name args)).1.sessions = b.sessions := aside_call.sessions
  exact (h.of_aside aside_call).settle ((connection?_congr hsessions).trans hi)
    (.inl ((isClosing_congr hsessions).trans hclosing))

/-- A session takes a frame out of its mailbox. After a close frame it passes that one on. -/
theorem wake_taken {f : Frame} {rooms : Mailroom} (h : b.Orderly) (hi : b.connection? i = some c)
    (hclosing : b.isClosing i = false) (htake : b.rooms.take c.mailbox = (some f, rooms)) :
    ({ b with rooms := rooms }.wake i now c hs dr (.outbound f)).Orderly := by
  obtain ⟨hframes, hothers, hreceiving⟩ := Mailroom.take_spec htake
  have hreceiving : ∀ k, b.rooms.isReceiving k = true → rooms.isReceiving k = true :=
    fun k hk => (hreceiving k).trans hk
  cases f with
  | close n =>
      show (({ b with rooms := rooms } : Switchboard).enter i
        (.open c hs (dr.write (.close n) (.finish .serverClosed)))).Orderly
      exact h.stay hi rfl rfl rfl hreceiving hothers fun _ => .inr rfl
  | _ =>
      have hrooms : ({ b with rooms := rooms } : Switchboard).Orderly := by
        refine h.of_rooms rfl rfl hreceiving fun k n hn => ?_
        by_cases hk : k = c.mailbox
        · subst hk
          rw [hframes] at hn
          simpa using hn
        · exact (hothers k hk).symm ▸ hn
      exact hrooms.wake hi hclosing

/-- Every connection has its mailbox among those that were set up. -/
theorem mailbox_lt (h : b.Orderly) (hi : b.connection? i = some c) : c.mailbox < b.rooms.next :=
  Mailroom.lt_next_of_isReceiving (h.receiving i c hi)

/-- A connection is registered under the next number. -/
theorem joined {registry : Registry} (h : b.Orderly) (hst : b.stage? i = some st)
    (hfree : st.connection? = none) (hid : c.id = Identity.ofNumber c.mailbox)
    (hnew : c.mailbox = b.rooms.next) (hregister : b.registry.register c = .ok registry) :
    (({ b with rooms := b.rooms.create, registry := registry } : Switchboard).enter i
      (.greeting c hs)).Orderly := by
  have hget := fun id => Registry.get?_register (j := id) hregister
  have hnone : b.connection? i = none := (connection?_of_stage? hst).trans hfree
  have hself : (({ b with rooms := b.rooms.create, registry := registry } : Switchboard).enter i
      (.greeting c hs)).connection? i = some c := connection?_enter_self hst
  -- a connection is the new one, or another that has a mailbox from before
  have hother : ∀ j d, (({ b with rooms := b.rooms.create, registry := registry } :
      Switchboard).enter i (.greeting c hs)).connection? j = some d →
      i = j ∧ d = c ∨ i ≠ j ∧ b.connection? j = some d ∧ d.mailbox ≠ c.mailbox := by
    intro j d hj
    by_cases hij : i = j
    · subst hij
      exact .inl ⟨rfl, Option.some.inj (hj.symm.trans hself)⟩
    · have hj : b.connection? j = some d := (connection?_enter_of_ne hij).symm.trans hj
      exact .inr ⟨hij, hj, hnew ▸ Nat.ne_of_lt (h.mailbox_lt hj)⟩
  constructor
  · intro j d hj
    rcases hother j d hj with ⟨-, rfl⟩ | ⟨-, hj, -⟩
    · exact hid
    · exact h.numbered j d hj
  · intro j d hj
    rcases hother j d hj with ⟨-, rfl⟩ | ⟨-, hj, -⟩
    · exact Mailroom.isReceiving_create.trans (if_pos hnew)
    · exact Mailroom.grows_create.receiving _ (h.receiving j d hj)
  · intro j k d e hj hk hm
    rcases hother j d hj with ⟨rfl, rfl⟩ | ⟨-, hj, hd⟩ <;>
      rcases hother k e hk with ⟨rfl, rfl⟩ | ⟨-, hk, he⟩
    · rfl
    · exact absurd hm.symm he
    · exact absurd hm hd
    · exact h.apart j k d e hj hk hm
  · intro id d hd
    change registry.get? id = some d at hd
    rw [hget] at hd
    split at hd
    · rename_i hcid
      cases hd
      exact ⟨hcid, i, hself⟩
    · obtain ⟨hdid, j, hj⟩ := h.listed id d hd
      have hij : i ≠ j := by
        rintro rfl
        rw [hnone] at hj
        cases hj
      exact ⟨hdid, j, (connection?_enter_of_ne hij).trans hj⟩
  · intro j d hj hd
    change (registry.get? d.id).isSome = false at hd
    rw [hget] at hd
    rcases hother j d hj with ⟨-, rfl⟩ | ⟨hij, hj, hm⟩
    · simp at hd
    · have hne : c.id ≠ d.id := by
        rw [hid, h.numbered j d hj]
        exact fun heq => hm (Identity.ofNumber_injective heq).symm
      rw [if_neg hne] at hd
      rw [isClosing_enter_of_ne hij]
      exact (h.told j d hj hd).imp_left fun ⟨n, hn⟩ => ⟨n, Mailroom.grows_create.mem hn⟩

/-- A connection is registered under a number that no other has, or refused. -/
theorem join {ns : Namespace} (h : b.Orderly) (hst : b.stage? i = some st)
    (hfree : st.connection? = none) : (b.join i ns hs).Orderly := by
  refine join_cases (fun registry hregister => ?_) fun e _ => ?_
  · exact h.joined hst hfree rfl rfl hregister
  · -- the mailbox that nobody will use is the newest one
    have hrooms : ({ b with rooms := b.rooms.create.hangUp b.rooms.next } : Switchboard).Orderly := by
      refine h.of_connections (fun _ => rfl) (fun _ _ => id) (fun k hk => ?_) fun j c hj hc => ?_
      · have hne : b.rooms.next ≠ k := (Nat.ne_of_lt (Mailroom.lt_next_of_isReceiving hk)).symm
        rw [Mailroom.isReceiving_hangUp, if_neg hne]
        exact Mailroom.grows_create.receiving k hk
      · have hne : b.rooms.next ≠ c.mailbox := (Nat.ne_of_lt (h.mailbox_lt hj)).symm
        rw [Mailroom.frames_hangUp_of_ne hne, Mailroom.frames_create]
        exact h.told j c hj hc
    exact hrooms.enter_free hst hfree rfl

/-- **A drain tells everybody it takes out of the registry.** -/
theorem drain {code : CloseCode} {reason : String} (h : b.Orderly) :
    (b.drain code reason).2.Orderly := by
  have hgrows : b.rooms.Grows (b.drain code reason).2.rooms := Registry.grows_closeAll
  refine h.of_connections (fun _ => rfl) (fun id c hget => ?_) hgrows.receiving fun j c hj _ => ?_
  · cases hget
  · -- who was registered is told now, and everybody else was told before
    cases hc : b.registry.contains c.id with
    | true =>
        have hvalue := Table.mem_values_of_find? (h.get?_of_contains hj hc)
        exact .inl ⟨_, Registry.mem_frames_closeAll hvalue (h.receiving j c hj)⟩
    | false => exact (h.told j c hj hc).imp_left fun ⟨n, hn⟩ => ⟨n, hgrows.mem hn⟩

/-- A session that begins has no connection. -/
theorem accept {peer : Net.SocketAddress} (h : b.Orderly) : (b.accept peer).Orderly := by
  have hnew : b.stage? b.sessions.length = none := by simp [stage?]
  refine h.of_connections (fun j => ?_) (fun _ _ => id) (fun _ => id) fun j c hj hc => ?_
  · by_cases hj : j = b.sessions.length
    · simp [connection?, stage?_accept, hj, hnew, Stage.connection?]
    · simp [connection?, stage?_accept, hj]
  · have hj' : j ≠ b.sessions.length := by
      rintro rfl
      simp [connection?, hnew] at hj
    have hclosing : (b.accept peer).isClosing j = b.isClosing j := by
      simp [isClosing, stage?_accept, hj']
    rw [hclosing]
    exact h.told j c hj hc

theorem sessionMove (h : b.Orderly) (hmove : SessionMove b now i b') : b'.Orderly := by
  cases hmove with
  | upgrade stage _ free _ free' _ _ => exact h.enter_free stage free free'
  | join stage => exact h.join stage rfl
  | @begin c hs stage =>
      have hi := connection?_of_stage? stage
      refine begin_cases (fun _ _ => ?_) fun _ => h.exit_after_call hi
      have hsessions : (b.call i c hs .connect).1.sessions = b.sessions := aside_call.sessions
      exact (h.of_aside aside_call).enter_open ((connection?_congr hsessions).trans hi)
        ((isClosing_congr hsessions).trans (isClosing_of_stage? stage)) rfl
  | ungreeted stage e => exact h.exit (connection?_of_stage? stage)
  | written stage mode ok =>
      refine h.settle (connection?_of_stage? stage) ?_
      rw [isClosing_of_stage? stage]
      exact Stage.isClosing_or_over mode ok
  | woken stage mode _ =>
      exact h.wake (connection?_of_stage? stage)
        ((isClosing_of_stage? stage).trans (Stage.isClosing_of_waiting mode))
  | taken stage mode take =>
      exact h.wake_taken (connection?_of_stage? stage)
        ((isClosing_of_stage? stage).trans (Stage.isClosing_of_waiting mode)) take

theorem cutOff (h : b.Orderly) (hcut : b.cutOff i o = some b') : b'.Orderly := by
  obtain ⟨st, hst, -, ⟨c, hc, rfl⟩ | ⟨hfree, rfl⟩⟩ := cutOff_cases hcut
  · exact h.exit ((connection?_of_stage? hst).trans hc)
  · exact h.enter_free hst hfree rfl

/-- **Every deed keeps sessions, registry and mailboxes in agreement**, but for the registration
of a connection that no session belongs to. -/
theorem perform {deed : Deed} (h : b.Orderly) (hown : ∀ ns, deed ≠ .register ns)
    (hdeed : b.perform deed = some b') : b'.Orderly := by
  cases deed with
  | accept peer =>
      cases hdeed
      exact h.accept
  | session now i cue => exact h.sessionMove (sessionMove_of_advance hdeed)
  | cutOff i o => exact h.cutOff hdeed
  | drain code reason =>
      cases hdeed
      exact h.drain
  | request =>
      cases hdeed
      exact h.of_aside aside_request
  | transition source target =>
      cases hdeed
      exact h.of_aside aside_transition
  | emit s name args =>
      cases hdeed
      exact h.of_aside aside_emit
  | close s reason =>
      cases hdeed
      exact h.of_aside aside_close
  | register ns => exact absurd rfl (hown ns)

end Orderly

end Switchboard

/-! ## In every run -/

namespace Gateway

variable {router : Router HandlerSet} {beat : Config.Heartbeat} {limit attempts : Nat}
  {ms : List Move} {g : Gateway}

theorem orderly_of_steps {g' : Gateway} (h : g.steps ms = some g')
    (hown : ∀ ns, .register ns ∉ ms) (hg : g.board.Orderly) : g'.board.Orderly := by
  refine board_of_steps (K := fun m => ∀ ns, m ≠ .register ns) h ?_ ?_ hg
  · rintro m hm ns rfl
    exact hown ns hm
  · intro d b b' hd hb hdeed
    refine hb.perform ?_ hdeed
    rintro ns rfl
    rcases hd with ⟨m, hm, hd⟩ | hd
    · exact hm ns (Move.eq_register hd)
    · cases hd

/-- **Registry and sessions stay in step** in every run in which only sessions register. Under each
id that the registry knows there is the connection of a session that has registered and not ended,
and of no other. And a session that is not in the registry, though it registered and has not ended,
has a close frame in its mailbox or has taken one out. -/
theorem registry_in_step
    (hrun : (fresh (.fresh router beat limit) attempts).steps ms = some g)
    (hown : ∀ ns, .register ns ∉ ms) :
    (∀ id, g.board.registry.contains id = true →
      ∃ i c, g.board.connection? i = some c ∧ g.board.registry.get? id = some c ∧ c.id = id ∧
        ∀ j d, g.board.connection? j = some d → d.id = id → j = i) ∧
    (∀ i c, g.board.connection? i = some c → g.board.registry.contains c.id = false →
      (∃ n, Frame.close n ∈ g.board.rooms.frames c.mailbox) ∨ g.board.isClosing i = true) := by
  have horderly : g.board.Orderly := orderly_of_steps hrun hown .fresh
  refine ⟨fun id hid => ?_, horderly.told⟩
  rw [Registry.contains_eq, Option.isSome_iff_exists] at hid
  obtain ⟨c, hc⟩ := hid
  obtain ⟨hcid, i, hi⟩ := horderly.listed id c hc
  refine ⟨i, c, hi, hc, hcid, fun j d hj hd => ?_⟩
  exact horderly.eq_of_id hj hi (hd.trans hcid.symm)

/-- The drain has told the first session, and the second one has registered since. -/
theorem registry_in_step_straggling :
    ∃ g c, small.steps straggling = some g ∧ (∀ ns, .register ns ∉ straggling) ∧
      (∃ i d, g.board.connection? i = some d ∧
        g.board.registry.get? (Identity.ofNumber 1) = some d) ∧
      g.board.connection? 0 = some c ∧ g.board.registry.contains c.id = false ∧
      ((∃ n, Frame.close n ∈ g.board.rooms.frames c.mailbox) ∨ g.board.isClosing 0 = true) := by
  have hown : ∀ ns, .register ns ∉ straggling := by
    intro ns h
    simp [straggling, opening, joining, draining] at h
  have hmain : ∃ g, small.steps straggling = some g ∧
      g.board.registry.contains (Identity.ofNumber 1) = true ∧
      (g.board.connection? 0).any (fun c => !g.board.registry.contains c.id) = true :=
    ⟨_, rfl, rfl, rfl⟩
  obtain ⟨g, hrun, hlate, hfirst⟩ := hmain
  obtain ⟨c, hc, hgone⟩ := (Option.any_eq_true _ _).mp hfirst
  obtain ⟨hlisted, htold⟩ := registry_in_step hrun hown
  obtain ⟨i, d, hi, hd, -, -⟩ := hlisted _ hlate
  have hgone : g.board.registry.contains c.id = false := (Bool.not_eq_true' _).mp hgone
  exact ⟨g, c, hrun, hown, ⟨i, d, hi, hd⟩, hc, hgone, htold 0 c hc hgone⟩

end Gateway

end SocketGateway
