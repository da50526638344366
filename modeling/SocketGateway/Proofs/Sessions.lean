import SocketGateway.Proofs.Deeds

/-!
# How sessions go on

What a handler does is an `Aside`: it leaves the sessions and the registry alone, and at most puts
frames into mailboxes. `SessionMove` says what a session can do when it goes on, with one rule for
each kind of stage, and every move ends in one of two ways: the session enters another stage, or it
exits and takes its connection with it.
-/

namespace SocketGateway

/-- **Handlers that never break down**, whatever they are called for. -/
def HandlerSet.IsCalm (hs : HandlerSet) : Prop := ∀ k, .panic ∉ hs.reactions k

namespace Switchboard

variable {b b' b'' : Switchboard} {now i j : Nat} {cue : Cue} {c : Connection} {st st' : Stage}
  {hs : HandlerSet} {k : CallKind} {s : Socket} {rs : List Reaction} {o : Outcome} {d : Drive}

/-! ## Asides -/

/-- Only mailboxes got frames, or the coordinator or the records changed. -/
structure Aside (b b' : Switchboard) : Prop where
  router : b'.router = b.router
  heartbeat : b'.heartbeat = b.heartbeat
  registry : b'.registry = b.registry
  sessions : b'.sessions = b.sessions
  rooms : b.rooms.Grows b'.rooms

theorem Aside.refl (b : Switchboard) : b.Aside b := ⟨rfl, rfl, rfl, rfl, .refl _⟩

theorem Aside.trans (h : b.Aside b') (h' : b'.Aside b'') : b.Aside b'' :=
  ⟨h'.router.trans h.router, h'.heartbeat.trans h.heartbeat, h'.registry.trans h.registry,
    h'.sessions.trans h.sessions, h.rooms.trans h'.rooms⟩

theorem aside_rooms {rooms : Mailroom} (h : b.rooms.Grows rooms) :
    b.Aside { b with rooms := rooms } := ⟨rfl, rfl, rfl, rfl, h⟩

theorem aside_request : b.Aside b.request.2 := ⟨rfl, rfl, rfl, rfl, .refl _⟩

theorem aside_transition {source target : Restart.Phase} :
    b.Aside (b.transition source target).2 := ⟨rfl, rfl, rfl, rfl, .refl _⟩

theorem aside_note : b.Aside (b.note i c k) := ⟨rfl, rfl, rfl, rfl, .refl _⟩

theorem grows_send {f : Wire.Frame} {m : Mailroom} : m.Grows (s.send m f).2 := by
  have h := Mailroom.grows_post (m := m) (j := s.mailbox) (f := f)
  unfold Socket.send
  split <;> simp_all

theorem aside_emit {name : String} {args : List Json.Value} :
    b.Aside (b.emit s name args).2 := aside_rooms grows_send

theorem aside_close {reason : String} : b.Aside (b.close s reason).2 := aside_rooms grows_send

theorem aside_react : b.Aside (b.react s rs).1 := by
  induction rs generalizing b with
  | nil => exact .refl b
  | cons r rs ih =>
      cases r with
      | emit name args => exact aside_emit.trans ih
      | close reason => exact aside_close.trans ih
      | restart => exact aside_request.trans ih
      | panic => exact .refl b

theorem aside_call : b.Aside (b.call i c hs k).1 := aside_note.trans aside_react

theorem calls_react : (b.react s rs).1.calls = b.calls := by
  induction rs generalizing b with
  | nil => rfl
  | cons r rs ih =>
      cases r with
      | panic => rfl
      | _ => exact ih

/-- A call of a handler is noted, and nothing that the handler does is. -/
theorem calls_call : (b.call i c hs k).1.calls = ⟨i, c.socket, k⟩ :: b.calls := calls_react

theorem react_of_calm (h : .panic ∉ rs) : (b.react s rs).2 = false := by
  induction rs generalizing b with
  | nil => rfl
  | cons r rs ih =>
      have hrest : Reaction.panic ∉ rs := fun hmem => h (List.mem_cons_of_mem _ hmem)
      cases r with
      | panic => exact absurd List.mem_cons_self h
      | _ => exact ih hrest

theorem call_of_calm (h : hs.IsCalm) : (b.call i c hs k).2 = false := react_of_calm (h k)

/-! ## How a move ends -/

/-- **Settling.** At its end an open connection has its handler called for the last time and exits;
otherwise it stays open. -/
theorem settle_cases {P : Switchboard → Prop}
    (left : ∀ reason, d.mode = .over reason → ∀ o,
      o = (if (b.call i c hs (.disconnect reason)).2 then .panicked else .returned (.ok ())) →
      P ((b.call i c hs (.disconnect reason)).1.exit i c o))
    (on : (∀ reason, d.mode ≠ .over reason) → P (b.enter i (.open c hs d))) :
    P (b.settle i c hs d) := by
  unfold settle
  split
  · rename_i reason hmode
    have h := left reason hmode
    split <;> rename_i hcall <;> simp only [hcall] at h
    · exact h _ rfl
    · exact h _ rfl
  · rename_i hmode
    exact on fun reason h => hmode reason h

/-- **Waking.** An event has its handler called before the connection settles; a handler that
breaks down ends the session. -/
theorem wake_cases {P : Switchboard → Prop} {occasion : Occasion}
    (silent : (d.wake b.heartbeat now occasion).2 = none →
      P (b.settle i c hs (d.wake b.heartbeat now occasion).1))
    (heard : ∀ name args, (d.wake b.heartbeat now occasion).2 = some (name, args) →
      (b.call i c hs (.event name args)).2 = false →
      P ((b.call i c hs (.event name args)).1.settle i c hs (d.wake b.heartbeat now occasion).1))
    (broken : ∀ name args, (d.wake b.heartbeat now occasion).2 = some (name, args) →
      (b.call i c hs (.event name args)).2 = true →
      P ((b.call i c hs (.event name args)).1.exit i c .panicked)) :
    P (b.wake i now c hs d occasion) := by
  unfold wake
  split
  · rename_i hwake
    simpa [hwake] using silent
  · rename_i name args hwake
    simp only [hwake] at heard broken
    split <;> rename_i hcall
    · simpa [hcall] using heard name args rfl
    · simpa [hcall] using broken name args rfl

/-- **Opening.** The handler is called for the first time; the clock of the connection cannot be set
without an interval. -/
theorem begin_cases {P : Switchboard → Prop}
    (opened : (b.call i c hs .connect).2 = false → b.heartbeat.interval ≠ 0 →
      P ((b.call i c hs .connect).1.enter i (.open c hs (.start b.heartbeat now))))
    (broken : (b.call i c hs .connect).2 = true ∨ b.heartbeat.interval = 0 →
      P ((b.call i c hs .connect).1.exit i c .panicked)) :
    P (b.begin i now c hs) := by
  have hbeat : (b.call i c hs .connect).1.heartbeat = b.heartbeat := aside_call.heartbeat
  unfold begin
  split <;> rename_i called hcall <;> simp only [hcall] at opened broken hbeat
  · rw [hbeat]
    split
    · exact broken (.inr ‹_›)
    · exact opened trivial ‹_›
  · exact broken (.inl trivial)

/-- **Joining.** A connection under the next number is registered, or refused for want of room. -/
theorem join_cases {P : Switchboard → Prop} {ns : Namespace}
    (joined : ∀ registry, b.registry.register (b.newConnection i ns) = .ok registry →
      P (({ b with rooms := b.rooms.create, registry := registry } : Switchboard).enter i
        (.greeting (b.newConnection i ns) hs)))
    (refused : ∀ e, b.registry.register (b.newConnection i ns) = .error e →
      P (({ b with rooms := b.rooms.create.hangUp b.rooms.next } : Switchboard).enter i
        (.refusing b.registry.limit (Stage.refusalFrames b.registry.limit)))) :
    P (b.join i ns hs) := by
  cases hregister : b.registry.register (b.newConnection i ns) with
  | ok registry => simpa only [join, hregister] using joined registry hregister
  | error e =>
      simp only [join, hregister]
      exact refused e hregister

/-- **Registering without a session.** The connection gets the newest mailbox, which is given up at
once if there is no room. -/
theorem registerLoose_cases {P : Switchboard → Prop} {ns : Namespace}
    (registered : ∀ registry, P { b with rooms := b.rooms.create, registry := registry })
    (refused : P { b with rooms := b.rooms.create.hangUp b.rooms.next }) :
    P (b.registerLoose ns).2 := by
  unfold registerLoose
  dsimp only
  split
  · exact registered _
  · exact refused

/-! ## Moves -/

/-- What a session does when it goes on. While it has no connection it may enter any stage without
one, as long as no handler was called (`upgrade`); it registers a connection (`join`), greets the
client or fails to (`begin`, `ungreeted`), and then it writes a frame (`written`), wakes up (`woken`)
or takes a frame out of its mailbox (`taken`). -/
inductive SessionMove (b : Switchboard) (now i : Nat) : Switchboard → Prop
  | upgrade {st st' : Stage} (stage : b.stage? i = some st) (live : st.isLive = true)
      (free : st.connection? = none) (early : st.isEarly = true)
      (free' : st'.connection? = none) (early' : st'.isEarly = true)
      (served : ∀ hs, st'.handlers? = some hs → ∃ path ns, b.router.resolve path = some (ns, hs)) :
      SessionMove b now i (b.enter i st')
  | join {ns : Namespace} {hs : HandlerSet} (stage : b.stage? i = some (.granting ns hs)) :
      SessionMove b now i (b.join i ns hs)
  | begin {c : Connection} {hs : HandlerSet} (stage : b.stage? i = some (.greeting c hs)) :
      SessionMove b now i (b.begin i now c hs)
  | ungreeted {c : Connection} {hs : HandlerSet} (stage : b.stage? i = some (.greeting c hs))
      (e : GatewayError) : SessionMove b now i (b.exit i c (.returned (.error e)))
  | written {c : Connection} {hs : HandlerSet} {d : Drive} {f : Wire.Frame} {next : After}
      (stage : b.stage? i = some (.open c hs d)) (mode : d.mode = .writing f next) (ok : Bool) :
      SessionMove b now i (b.settle i c hs (d.written ok))
  | woken {c : Connection} {hs : HandlerSet} {d : Drive} {occasion : Occasion}
      (stage : b.stage? i = some (.open c hs d)) (mode : d.mode = .waiting)
      (own : ∀ f, occasion ≠ .outbound f) :
      SessionMove b now i (b.wake i now c hs d occasion)
  | taken {c : Connection} {hs : HandlerSet} {d : Drive} {f : Wire.Frame} {rooms : Mailroom}
      (stage : b.stage? i = some (.open c hs d)) (mode : d.mode = .waiting)
      (take : b.rooms.take c.mailbox = (some f, rooms)) :
      SessionMove b now i ({ b with rooms := rooms }.wake i now c hs d (.outbound f))

/-- A session without a connection gives up. -/
theorem SessionMove.giveUp (stage : b.stage? i = some st) (live : st.isLive = true)
    (free : st.connection? = none) (early : st.isEarly = true) (e : GatewayError) :
    SessionMove b now i (b.enter i (.ended (.returned (.error e)))) :=
  .upgrade stage live free early rfl rfl fun _ h => by cases h

/-- Only a session that has not ended makes a move. -/
theorem SessionMove.isLive (h : SessionMove b now i b') :
    ∃ st, b.stage? i = some st ∧ st.isLive = true := by
  cases h with
  | upgrade stage live => exact ⟨_, stage, live⟩
  | join stage => exact ⟨_, stage, rfl⟩
  | begin stage => exact ⟨_, stage, rfl⟩
  | ungreeted stage => exact ⟨_, stage, rfl⟩
  | written stage => exact ⟨_, stage, rfl⟩
  | woken stage => exact ⟨_, stage, rfl⟩
  | taken stage => exact ⟨_, stage, rfl⟩

/-- An open connection goes on after a write, an occasion, or a frame out of its mailbox. -/
theorem sessionMove_of_open (hst : b.stage? i = some (.open c hs d))
    (h : b.advance now i cue = some b') : SessionMove b now i b' := by
  simp only [advance, Option.bind_eq_bind, Option.bind_eq_some_iff] at h
  obtain ⟨_, hst', h⟩ := h
  cases hst.symm.trans hst'
  simp only at h
  split at h
  · rename_i hmode
    cases h
    exact .written hst hmode true
  · rename_i hmode
    cases h
    exact .written hst hmode false
  · rename_i hmode
    cases h
    exact .woken hst hmode fun _ => Occasion.noConfusion
  · rename_i hmode
    cases h
    exact .woken hst hmode fun _ => Occasion.noConfusion
  · rename_i hmode
    cases h
    exact .woken hst hmode fun _ => Occasion.noConfusion
  · rename_i hmode
    cases h
    exact .woken hst hmode fun _ => Occasion.noConfusion
  · rename_i hmode
    split at h <;> rename_i htake
    · cases h
      exact .taken hst hmode htake
    · cases h
  · cases h

/-- **A session that goes on makes one of these moves.** -/
theorem sessionMove_of_advance (h : b.advance now i cue = some b') : SessionMove b now i b' := by
  have hadvance := h
  simp only [advance, Option.bind_eq_bind, Option.bind_eq_some_iff] at h
  obtain ⟨st, hst, h⟩ := h
  split at h
  · -- the upgrade failed
    cases h
    exact .giveUp hst rfl rfl rfl _
  · -- a path was asked for, which is served or not
    split at h <;> rename_i hroute <;> cases h
    · exact .upgrade hst rfl rfl rfl rfl rfl fun _ h => by cases h
    · refine .upgrade hst rfl rfl rfl rfl rfl ?_
      rintro _ ⟨⟩
      exact ⟨_, _, hroute⟩
  · cases h
    exact .giveUp hst rfl rfl rfl _
  · cases h
    exact .giveUp hst rfl rfl rfl _
  · -- the upgrade is granted
    cases h
    exact .join hst
  · cases h
    exact .giveUp hst rfl rfl rfl _
  · -- one of several frames of a refusal was written
    cases h
    exact .upgrade hst rfl rfl rfl rfl rfl fun _ h => by cases h
  · cases h
    exact .giveUp hst rfl rfl rfl _
  · cases h
    exact .giveUp hst rfl rfl rfl _
  · -- the client is greeted, or cannot be
    cases h
    exact .begin hst
  · cases h
    exact .ungreeted hst _
  · exact sessionMove_of_open hst hadvance
  · cases h

/-- A session that was cut off had not ended; it is rid of its connection, if it had one. -/
theorem cutOff_cases (h : b.cutOff i o = some b') :
    ∃ st, b.stage? i = some st ∧ st.isLive = true ∧
      ((∃ c, st.connection? = some c ∧ b' = b.exit i c o) ∨
        (st.connection? = none ∧ b' = b.enter i (.ended o))) := by
  simp only [cutOff, Option.bind_eq_bind, Option.bind_eq_some_iff] at h
  obtain ⟨st, hst, h⟩ := h
  refine ⟨st, hst, ?_⟩
  split at h
  · rename_i hlive
    refine ⟨hlive, ?_⟩
    split at h <;> rename_i hc <;> cases h
    · exact .inl ⟨_, hc, rfl⟩
    · exact .inr ⟨hc, rfl⟩
  · cases h

end Switchboard

end SocketGateway
