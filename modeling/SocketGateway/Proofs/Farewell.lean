import SocketGateway.Proofs.Membership

/-!
# Who is told that the gateway stops

A stop drains the registry, gives the sessions some time, aborts those that are left, and drains
the registry once more. A session that has not ended was told if the farewell is in its mailbox, or
has been taken out and is being written. `Follows` says what becomes of that, and of who is in the
registry, as long as nothing is drained: for a session that goes on with its connection nothing
changes, and one that has registered since is in the registry and has not been told. So the first
drain tells everybody who has registered by then, and nobody else: when the second one comes,
whoever has registered since was aborted and has left the registry.
-/

namespace SocketGateway

open SocketGateway.Wire (CloseCode Frame)

def farewell : Frame := .closing CloseCode.away Gateway.drainReason

def Stage.passesOn (f : Frame) : Stage → Bool
  | .open _ _ d => d.mode = .writing f (.finish .serverClosed)
  | _ => false

theorem Stage.passesOn_write {c : Connection} {hs : HandlerSet} {d : Drive} {f f' : Frame}
    {next : After} : (Stage.open c hs (d.write f' next)).passesOn f = true ↔
      f' = f ∧ next = .finish .serverClosed := by
  simp [passesOn, Drive.write]

theorem Stage.passesOn_of_mode {c : Connection} {hs : HandlerSet} {d : Drive} {f : Frame}
    (h : ∀ f', d.mode ≠ .writing f' (.finish .serverClosed)) :
    (Stage.open c hs d).passesOn f = false := decide_eq_false (h f)

theorem Stage.passesOn_of_waiting {c : Connection} {hs : HandlerSet} {d : Drive} {f : Frame}
    (h : d.mode = .waiting) : (Stage.open c hs d).passesOn f = false := by
  refine passesOn_of_mode fun f' heq => ?_
  rw [h] at heq
  cases heq

namespace Switchboard

variable {b b' b'' : Switchboard} {now i j : Nat} {c : Connection} {st st' : Stage}
  {hs : HandlerSet} {k : CallKind} {s : Socket} {rs : List Reaction} {o : Outcome} {d : Drive}
  {f : Frame}

/-- **A session was told**: the farewell is in the mailbox of its connection, or the session passes
it on. -/
def IsTold (b : Switchboard) (i : Nat) (c : Connection) : Prop :=
  farewell ∈ b.rooms.frames c.mailbox ∨ (b.stage? i).any (·.passesOn farewell) = true

theorem isTold_iff (hst : b.stage? i = some st) :
    b.IsTold i c ↔ farewell ∈ b.rooms.frames c.mailbox ∨ st.passesOn farewell = true := by
  rw [IsTold, hst]
  rfl

/-! ## What is no farewell -/

/-- Nobody comes, goes or says farewell. -/
structure Quiet (b b' : Switchboard) : Prop where
  registry : b'.registry = b.registry
  sessions : b'.sessions = b.sessions
  next : b'.rooms.next = b.rooms.next
  unsaid : ∀ k, farewell ∈ b'.rooms.frames k ↔ farewell ∈ b.rooms.frames k

theorem Quiet.refl (b : Switchboard) : b.Quiet b := ⟨rfl, rfl, rfl, fun _ => .rfl⟩

theorem Quiet.trans (h : b.Quiet b') (h' : b'.Quiet b'') : b.Quiet b'' :=
  ⟨h'.registry.trans h.registry, h'.sessions.trans h.sessions, h'.next.trans h.next,
    fun k => (h'.unsaid k).trans (h.unsaid k)⟩

theorem quiet_send (hf : f ≠ farewell) : b.Quiet { b with rooms := (s.send b.rooms f).2 } := by
  have hsend : (s.send b.rooms f).2 = (b.rooms.post s.mailbox f).2 := by
    unfold Socket.send
    split <;> simp_all
  refine ⟨rfl, rfl, ?_, fun k => ?_⟩
  · show (s.send b.rooms f).2.next = _
    rw [hsend, Mailroom.next_post]
  · show farewell ∈ (s.send b.rooms f).2.frames k ↔ _
    rw [hsend, Mailroom.frames_post]
    split
    · simp [Ne.symm hf]
    · exact .rfl

theorem quiet_emit {name : String} {args : List Json.Value} : b.Quiet (b.emit s name args).2 :=
  quiet_send Frame.noConfusion

/-- Who closes a connection by its socket gives another code. -/
theorem quiet_close {reason : String} : b.Quiet (b.close s reason).2 := by
  refine quiet_send fun heq => ?_
  have hcode : CloseCode.normal = CloseCode.away := by
    simp only [farewell, Frame.closing, Frame.close.injEq, Option.some.injEq,
      Wire.CloseNotice.mk.injEq] at heq
    exact heq.1
  exact absurd hcode (by decide)

theorem quiet_request : b.Quiet b.request.2 := ⟨rfl, rfl, rfl, fun _ => .rfl⟩

theorem quiet_react : b.Quiet (b.react s rs).1 := by
  induction rs generalizing b with
  | nil => exact .refl b
  | cons r rs ih =>
      cases r with
      | emit name args => exact quiet_emit.trans ih
      | close reason => exact quiet_close.trans ih
      | restart => exact quiet_request.trans ih
      | panic => exact .refl b

theorem quiet_call : b.Quiet (b.call i c hs k).1 := by
  have hnote : b.Quiet (b.note i c k) := ⟨rfl, rfl, rfl, fun _ => .rfl⟩
  exact hnote.trans quiet_react

/-! ## While nothing is drained -/

/-- For the connection of a session nothing has changed. -/
structure Same (b b' : Switchboard) (i : Nat) (c : Connection) : Prop where
  connection : b.connection? i = some c
  listed : b'.registry.contains c.id = b.registry.contains c.id
  told : b'.IsTold i c ↔ b.IsTold i c

structure Newly (b b' : Switchboard) (i : Nat) (c : Connection) : Prop where
  new : b.rooms.next ≤ c.mailbox
  listed : b'.registry.contains c.id = true
  untold : ¬b'.IsTold i c

/-- **Nothing was drained**: for every session that goes on with its connection nothing has
changed, and all other connections are new. -/
structure Follows (b b' : Switchboard) : Prop where
  next : b.rooms.next ≤ b'.rooms.next
  each : ∀ i c, b'.connection? i = some c → b.Same b' i c ∨ b.Newly b' i c

namespace Follows

theorem of_quiet (h : b.Quiet b') : b.Follows b' := by
  refine ⟨Nat.le_of_eq h.next.symm, fun i c hi => .inl ⟨?_, ?_, ?_⟩⟩
  · rw [← connection?_congr h.sessions]
    exact hi
  · rw [h.registry]
  · rw [IsTold, IsTold, h.unsaid, stage?_congr h.sessions]

theorem refl (b : Switchboard) : b.Follows b := of_quiet (.refl b)

theorem trans (h : b.Follows b') (h' : b'.Follows b'') : b.Follows b'' := by
  refine ⟨Nat.le_trans h.next h'.next, fun i c hi => ?_⟩
  rcases h'.each i c hi with hsame' | hnew'
  · -- what came of the connection before has not changed since
    rcases h.each i c hsame'.connection with hsame | hnew
    · exact .inl ⟨hsame.connection, hsame'.listed.trans hsame.listed, hsame'.told.trans hsame.told⟩
    · exact .inr ⟨hnew.new, hsame'.listed.trans hnew.listed, fun htold =>
        hnew.untold (hsame'.told.mp htold)⟩
  · exact .inr ⟨Nat.le_trans h.next hnew'.new, hnew'.listed, hnew'.untold⟩

/-- **One session moves.** The others keep their stages, and what is said about their connections
is as it was. -/
theorem of_session (hnext : b.rooms.next ≤ b'.rooms.next)
    (hstage : ∀ j, i ≠ j → b'.stage? j = b.stage? j)
    (hothers : ∀ j c, i ≠ j → b.connection? j = some c →
      b'.registry.contains c.id = b.registry.contains c.id ∧
        (farewell ∈ b'.rooms.frames c.mailbox ↔ farewell ∈ b.rooms.frames c.mailbox))
    (hself : ∀ c, b'.connection? i = some c → b.Same b' i c ∨ b.Newly b' i c) : b.Follows b' := by
  refine ⟨hnext, fun j c hj => ?_⟩
  by_cases hij : i = j
  · subst hij
    exact hself c hj
  · have hj : b.connection? j = some c := by
      rw [connection?, hstage j hij] at hj
      exact hj
    obtain ⟨hlisted, hframes⟩ := hothers j c hij hj
    refine .inl ⟨hj, hlisted, ?_⟩
    rw [IsTold, IsTold, hframes, hstage j hij]

/-- A session enters another stage. If it has a connection there then it had it before, and it
passes the farewell on if it did so before. -/
theorem enter (hst : b.stage? i = some st)
    (hself : ∀ c, st'.connection? = some c → st.connection? = some c ∧
      st'.passesOn farewell = st.passesOn farewell) : b.Follows (b.enter i st') := by
  refine of_session (i := i) (Nat.le_refl _) (fun j hij => stage?_enter_of_ne hij)
    (fun _ _ _ _ => ⟨rfl, .rfl⟩) fun c hi => ?_
  rw [connection?_enter_self hst] at hi
  obtain ⟨hc, hpasses⟩ := hself c hi
  refine .inl ⟨(connection?_of_stage? hst).trans hc, rfl, ?_⟩
  rw [isTold_iff hst, isTold_iff (stage?_enter_self hst), hpasses]
  exact .rfl

/-- A session ends and takes its connection with it, and no other one. -/
theorem exit (h : b.Orderly) (hi : b.connection? i = some c) : b.Follows (b.exit i c o) := by
  obtain ⟨st, hst, -⟩ := exists_stage?_of_connection? hi
  have hnone : (b.exit i c o).connection? i = none := connection?_enter_self (b := b.leave c) hst
  refine of_session (i := i) ?_ (fun j hij => stage?_enter_of_ne (b := b.leave c) hij)
    (fun j d hij hj => ⟨?_, ?_⟩) fun d hd => ?_
  · exact Nat.le_of_eq Mailroom.next_hangUp.symm
  · show ((b.registry.remove c.id).2.get? d.id).isSome = (b.registry.get? d.id).isSome
    rw [Registry.get?_remove, if_neg (h.id_ne hi hj hij)]
  · show farewell ∈ (b.rooms.hangUp c.mailbox).frames d.mailbox ↔ _
    rw [Mailroom.frames_hangUp_of_ne (h.mailbox_ne hi hj hij)]
  · rw [hnone] at hd
    cases hd

theorem exit_after_call (h : b.Orderly) (hi : b.connection? i = some c) :
    b.Follows ((b.call i c hs k).1.exit i c o) := by
  have hcalled : (b.call i c hs k).1.Orderly := h.of_aside aside_call
  exact (of_quiet quiet_call).trans
    (exit hcalled ((connection?_congr aside_call.sessions).trans hi))

/-- An open connection settles. Unless it is over, it passes the farewell on if it did so before. -/
theorem settle (h : b.Orderly) (hst : b.stage? i = some st) (hc : st.connection? = some c)
    (hpasses : (∀ reason, d.mode ≠ .over reason) →
      (Stage.open c hs d).passesOn farewell = st.passesOn farewell) :
    b.Follows (b.settle i c hs d) := by
  have hi : b.connection? i = some c := (connection?_of_stage? hst).trans hc
  refine settle_cases (fun _ _ _ _ => exit_after_call h hi) fun hon => enter hst ?_
  rintro _ ⟨⟩
  exact ⟨hc, hpasses hon⟩

/-- What wakes a session up, if it is no frame out of its mailbox, does not make it pass one on. -/
theorem wake {occasion : Occasion} (h : b.Orderly) (hst : b.stage? i = some (.open c hs d))
    (hmode : d.mode = .waiting) (hown : ∀ f, occasion ≠ .outbound f) :
    b.Follows (b.wake i now c hs d occasion) := by
  have hi : b.connection? i = some c := connection?_of_stage? hst
  have hbefore : (Stage.open c hs d).passesOn farewell = false := Stage.passesOn_of_waiting hmode
  have hafter : (Stage.open c hs (d.wake b.heartbeat now occasion).1).passesOn farewell = false :=
    decide_eq_false fun heq => hown _ ((Drive.wake_mode_closing_iff hmode).mp heq)
  refine wake_cases (fun _ => settle h hst rfl fun _ => hafter.trans hbefore.symm)
    (fun name args _ _ => ?_) fun _ _ _ _ => exit_after_call h hi
  have hcalled : (b.call i c hs (.event name args)).1.stage? i = some (.open c hs d) :=
    (stage?_congr aside_call.sessions).trans hst
  exact (of_quiet quiet_call).trans
    (settle (h.of_aside aside_call) hcalled rfl fun _ => hafter.trans hbefore.symm)

/-- A session takes a frame out of its mailbox and passes it on. -/
theorem wake_taken {rooms : Mailroom} (h : b.Orderly) (hst : b.stage? i = some (.open c hs d))
    (hmode : d.mode = .waiting) (htake : b.rooms.take c.mailbox = (some f, rooms)) :
    b.Follows ({ b with rooms := rooms }.wake i now c hs d (.outbound f)) := by
  obtain ⟨hframes, hothers, -⟩ := Mailroom.take_spec htake
  have hi : b.connection? i = some c := connection?_of_stage? hst
  have hwake : ({ b with rooms := rooms } : Switchboard).wake i now c hs d (.outbound f) =
      ({ b with rooms := rooms } : Switchboard).enter i
        (.open c hs (d.write f (if f.isClose then .finish .serverClosed else .resume))) := by
    cases f <;> rfl
  rw [hwake]
  refine of_session (i := i) (Nat.le_of_eq (Mailroom.next_take htake).symm)
    (fun j hij => stage?_enter_of_ne (b := { b with rooms := rooms }) hij)
    (fun j e hij hj => ⟨rfl, ?_⟩) fun e he => ?_
  · show farewell ∈ rooms.frames e.mailbox ↔ _
    rw [hothers _ (h.mailbox_ne hi hj hij).symm]
  · rw [connection?_enter_self (b := { b with rooms := rooms }) hst] at he
    obtain rfl : c = e := Option.some.inj he
    refine .inl ⟨hi, rfl, ?_⟩
    -- the frame that was taken is the farewell, or the farewell is still where it was
    have hpasses : (Stage.open c hs d).passesOn farewell = false :=
      Stage.passesOn_of_waiting hmode
    rw [isTold_iff hst, isTold_iff (stage?_enter_self (b := { b with rooms := rooms }) hst),
      hpasses, Stage.passesOn_write, hframes, List.mem_cons]
    show farewell ∈ rooms.frames c.mailbox ∨ _ ↔ _
    by_cases hf : f = farewell
    · subst hf
      simp [Frame.isClose, farewell, Frame.closing]
    · simp [hf, Ne.symm hf]

/-- A connection that is registered under the next number is new. -/
theorem joined {registry : Registry} {ns : Namespace} (h : b.Orderly) (hst : b.stage? i = some st)
    (hregister : b.registry.register (b.newConnection i ns) = .ok registry) :
    b.Follows (({ b with rooms := b.rooms.create, registry := registry } : Switchboard).enter i
      (.greeting (b.newConnection i ns) hs)) := by
  have hget := fun id => Registry.get?_register (j := id) hregister
  have hjoined : (({ b with rooms := b.rooms.create, registry := registry } : Switchboard).enter i
      (.greeting (b.newConnection i ns) hs)).stage? i =
        some (.greeting (b.newConnection i ns) hs) := stage?_enter_self hst
  refine of_session (i := i) ?_ (fun j hij => stage?_enter_of_ne hij)
    (fun j d hij hj => ⟨?_, ?_⟩) fun d hd => .inr ?_
  · show b.rooms.next ≤ b.rooms.create.next
    rw [Mailroom.next_create]
    exact Nat.le_succ _
  · -- the number of the new connection is larger than all others
    have hne : (b.newConnection i ns).id ≠ d.id := by
      intro heq
      rw [h.numbered j d hj] at heq
      exact Nat.ne_of_gt (h.mailbox_lt hj) (Identity.ofNumber_injective heq)
    show (registry.get? d.id).isSome = (b.registry.get? d.id).isSome
    rw [hget, if_neg hne]
  · show farewell ∈ b.rooms.create.frames d.mailbox ↔ _
    rw [Mailroom.frames_create]
  · rw [connection?_of_stage? hjoined] at hd
    obtain rfl : b.newConnection i ns = d := Option.some.inj hd
    refine ⟨Nat.le_refl _, ?_, ?_⟩
    · show (registry.get? _).isSome = true
      rw [hget, if_pos rfl]
      rfl
    · rw [isTold_iff hjoined]
      show ¬(farewell ∈ b.rooms.create.frames b.rooms.next ∨ false = true)
      simp

/-- A connection that is refused is none. -/
theorem refused {limit : Nat} {fs : List Frame} (h : b.Orderly) (hst : b.stage? i = some st) :
    b.Follows (({ b with rooms := b.rooms.create.hangUp b.rooms.next } : Switchboard).enter i
      (.refusing limit fs)) := by
  have hnone : (({ b with rooms := b.rooms.create.hangUp b.rooms.next } : Switchboard).enter i
      (.refusing limit fs)).connection? i = none := connection?_enter_self hst
  refine of_session (i := i) ?_ (fun j hij => stage?_enter_of_ne hij)
    (fun j d _ hj => ⟨rfl, ?_⟩) fun d hd => ?_
  · show b.rooms.next ≤ (b.rooms.create.hangUp b.rooms.next).next
    rw [Mailroom.next_hangUp, Mailroom.next_create]
    exact Nat.le_succ _
  · have hne : b.rooms.next ≠ d.mailbox := Nat.ne_of_gt (h.mailbox_lt hj)
    show farewell ∈ (b.rooms.create.hangUp b.rooms.next).frames d.mailbox ↔ _
    rw [Mailroom.frames_hangUp_of_ne hne, Mailroom.frames_create]
  · rw [hnone] at hd
    cases hd

theorem join {ns : Namespace} (h : b.Orderly) (hst : b.stage? i = some st) :
    b.Follows (b.join i ns hs) :=
  join_cases (fun _ hregister => joined h hst hregister) fun _ _ => refused h hst

/-- A stream that is accepted has no connection yet. -/
theorem accept {peer : Net.SocketAddress} : b.Follows (b.accept peer) := by
  refine of_session (i := b.sessions.length) (Nat.le_refl _) (fun j hij => ?_)
    (fun _ _ _ _ => ⟨rfl, .rfl⟩) fun c hc => ?_
  · rw [stage?_accept, if_neg (Ne.symm hij)]
  · rw [connection?, stage?_accept, if_pos rfl] at hc
    cases hc

theorem sessionMove (h : b.Orderly) (hmove : SessionMove b now i b') : b.Follows b' := by
  cases hmove with
  | upgrade stage _ _ _ free' =>
      refine enter stage fun c hc => ?_
      rw [free'] at hc
      cases hc
  | join stage => exact join h stage
  | @begin c hs stage =>
      have hi := connection?_of_stage? stage
      refine begin_cases (fun _ _ => ?_) fun _ => exit_after_call h hi
      have hcalled : (b.call i c hs .connect).1.stage? i = some (.greeting c hs) :=
        (stage?_congr aside_call.sessions).trans stage
      refine (of_quiet quiet_call).trans (enter hcalled ?_)
      rintro _ ⟨⟩
      exact ⟨rfl, Stage.passesOn_of_mode fun _ => Mode.noConfusion⟩
  | ungreeted stage e => exact exit h (connection?_of_stage? stage)
  | @written c hs d f next stage mode ok =>
      refine settle h stage rfl fun hon => ?_
      -- whoever passes a frame on is over once it is written
      cases next with
      | finish reason => exact absurd (by simp [Drive.written, mode, Drive.stop]) (hon reason)
      | resume =>
          have hbefore : (Stage.open c hs d).passesOn farewell = false := by
            refine Stage.passesOn_of_mode fun f' heq => ?_
            rw [mode] at heq
            cases heq
          refine Eq.trans (Stage.passesOn_of_mode fun f' => ?_) hbefore.symm
          cases ok <;> simp [Drive.written, mode, Drive.stop]
  | woken stage mode own => exact wake h stage mode own
  | taken stage mode take => exact wake_taken h stage mode take

theorem cutOff (h : b.Orderly) (hcut : b.cutOff i o = some b') : b.Follows b' := by
  obtain ⟨st, hst, -, ⟨c, hc, rfl⟩ | ⟨-, rfl⟩⟩ := cutOff_cases hcut
  · exact exit h ((connection?_of_stage? hst).trans hc)
  · refine enter hst fun c hc => ?_
    cases hc

/-- **A deed that drains nothing changes nothing for whoever goes on**, as long as only sessions
register. -/
theorem perform {deed : Deed} (h : b.Orderly) (hown : ∀ ns, deed ≠ .register ns)
    (hquiet : ∀ code reason, deed ≠ .drain code reason) (hdeed : b.perform deed = some b') :
    b.Follows b' := by
  cases deed with
  | accept peer =>
      cases hdeed
      exact accept
  | session now i cue => exact sessionMove h (sessionMove_of_advance hdeed)
  | cutOff i o => exact cutOff h hdeed
  | drain code reason => exact absurd rfl (hquiet code reason)
  | request =>
      cases hdeed
      exact of_quiet quiet_request
  | transition source target =>
      cases hdeed
      exact of_quiet ⟨rfl, rfl, rfl, fun _ => .rfl⟩
  | emit s name args =>
      cases hdeed
      exact of_quiet quiet_emit
  | close s reason =>
      cases hdeed
      exact of_quiet quiet_close
  | register ns => exact absurd rfl (hown ns)

end Follows

/-! ## Until the registry is drained -/

/-- **A farewell is due to a connection of before**: as long as its session goes on with it, it is
in the registry, or it was told. -/
structure Due (b : Switchboard) (i : Nat) (c : Connection) : Prop where
  old : c.mailbox < b.rooms.next
  due : b.connection? i = some c → b.registry.contains c.id = true ∨ b.IsTold i c

/-- When the gateway drains the registry, everybody is told to whom a farewell is due. -/
theorem isTold_drain (h : b.Orderly) (hi : b.connection? i = some c)
    (hdue : b.registry.contains c.id = true ∨ b.IsTold i c) :
    (b.drain CloseCode.away Gateway.drainReason).2.IsTold i c := by
  rcases hdue with hcontains | hmem | hpasses
  · have hvalue := Table.mem_values_of_find? (h.get?_of_contains hi hcontains)
    exact .inl (Registry.mem_frames_closeAll hvalue (h.receiving i c hi))
  · exact .inl (Registry.grows_closeAll.mem hmem)
  · exact .inr hpasses

theorem Due.drain (hdue : b.Due i c) (h : b.Orderly) :
    (b.drain CloseCode.away Gateway.drainReason).2.Due i c := by
  refine ⟨?_, fun hi => .inr (isTold_drain h hi (hdue.due hi))⟩
  exact Nat.lt_of_lt_of_eq hdue.old Registry.next_closeAll.symm

theorem Due.follows (hdue : b.Due i c) (h : b.Follows b') : b'.Due i c := by
  refine ⟨Nat.lt_of_lt_of_le hdue.old h.next, fun hi => ?_⟩
  rcases h.each i c hi with hsame | hnew
  · rw [hsame.listed, hsame.told]
    exact hdue.due hsame.connection
  · exact absurd hnew.new (Nat.not_le_of_lt hdue.old)

/-- **Every deed keeps it due**, but for a drain that says something else. -/
theorem Due.perform {deed : Deed} (hdue : b.Due i c) (h : b.Orderly)
    (hown : ∀ ns, deed ≠ .register ns)
    (hfarewell : ∀ code reason, deed = .drain code reason →
      code = CloseCode.away ∧ reason = Gateway.drainReason)
    (hdeed : b.perform deed = some b') : b'.Due i c := by
  by_cases hdrains : ∃ code reason, deed = .drain code reason
  · obtain ⟨code, reason, rfl⟩ := hdrains
    obtain ⟨rfl, rfl⟩ := hfarewell code reason rfl
    cases hdeed
    exact hdue.drain h
  · refine hdue.follows (Follows.perform h hown (fun code reason heq => ?_) hdeed)
    exact hdrains ⟨code, reason, heq⟩

end Switchboard

/-! ## In every run -/

/-- Whether a move leaves the registry to the sessions and the supervisor. -/
def Move.leavesRegistry : Move → Bool
  | .register _ | .drain .. => false
  | _ => true

def Control.isBetweenDrains : Control → Bool
  | .stopping _ .grace | .stopping _ .aborting => true
  | _ => false

namespace Gateway

variable {router : Router HandlerSet} {beat : Config.Heartbeat} {limit attempts i : Nat}
  {m : Move} {ms ms' ms₀ ms₁ ms₂ : List Move} {g g' g₀ g₁ g₂ : Gateway} {c : Connection}

theorem not_register_of_leavesRegistry {d : Deed} (hm : m.leavesRegistry = true)
    (hd : m.deed? = some d) : ∀ ns, d ≠ .register ns := by
  rintro ns rfl
  rw [Move.eq_register hd] at hm
  cases hm

theorem not_drain_of_leavesRegistry {d : Deed} (hm : m.leavesRegistry = true)
    (hd : m.deed? = some d) : ∀ code reason, d ≠ .drain code reason := by
  rintro code reason rfl
  rw [Move.eq_drain hd] at hm
  cases hm

/-- A farewell stays due as long as only the supervisor drains. -/
theorem due_of_steps (h : g.steps ms = some g') (hms : ∀ m ∈ ms, m.leavesRegistry = true)
    (hg : g.board.Orderly) (hdue : g.board.Due i c) : g'.board.Orderly ∧ g'.board.Due i c := by
  refine board_of_steps (P := fun b => b.Orderly ∧ b.Due i c) h hms ?_ ⟨hg, hdue⟩
  rintro d b b' hd ⟨hb, hdue⟩ hdeed
  have hown : ∀ ns, d ≠ .register ns := by
    rcases hd with ⟨m, hm, hd⟩ | hd
    · exact not_register_of_leavesRegistry hm hd
    · rintro ns rfl
      cases hd
  refine ⟨hb.perform hown hdeed, hdue.perform hb hown (fun code reason heq => ?_) hdeed⟩
  rcases hd with ⟨m, hm, hd⟩ | hd
  · exact absurd heq (not_drain_of_leavesRegistry hm hd code reason)
  · subst heq
    exact of_decide_eq_true hd

/-- What is kept between the two drains of a stop. -/
theorem kept_between_drains (hg : g.control.isBetweenDrains = true)
    (hm : m.leavesRegistry = true) (hsame : m ≠ .proceed) (horderly : g.board.Orderly)
    (hstep : g.step m = some g') :
    g'.control.isBetweenDrains = true ∧ g'.board.Orderly ∧ g.board.Follows g'.board := by
  rcases step_cases hstep with ⟨d, b, hd, hb, rfl, -⟩ | ⟨-, hturn⟩
  · have hown := not_register_of_leavesRegistry hm hd
    exact ⟨hg, horderly.perform hown hb,
      .perform horderly hown (not_drain_of_leavesRegistry hm hd) hb⟩
  · -- the supervisor can do nothing but end the grace period
    have between : ∀ {c}, g.control = c → c.isBetweenDrains = true := fun hc => hc ▸ hg
    cases hturn with
    | graceOver => exact ⟨rfl, horderly, .refl _⟩
    | round | close | drain | sweep | stopped => exact absurd rfl hsame
    | unfit control | start control | stop control | rebind control | run control | bound control
    | firstAttempt control | nextAttempt control | noticeRestart control | nowhere control
    | shutdown control => cases between control

theorem follows_of_steps (h : g.steps ms = some g') (hms : ∀ m ∈ ms, m.leavesRegistry = true)
    (hsame : .proceed ∉ ms) (hg : g.control.isBetweenDrains = true) (horderly : g.board.Orderly) :
    g.board.Follows g'.board := by
  have hkept : g'.control.isBetweenDrains = true ∧ g'.board.Orderly ∧ g.board.Follows g'.board := by
    refine steps_induction (K := fun m => m.leavesRegistry = true ∧ m ≠ .proceed)
      (P := fun g' => g'.control.isBetweenDrains = true ∧ g'.board.Orderly ∧
        g.board.Follows g'.board) h (fun m hm => ⟨hms m hm, ?_⟩) ?_ ⟨hg, horderly, .refl _⟩
    · rintro rfl
      exact hsame hm
    · rintro g₁ m g₂ ⟨hm, hne⟩ ⟨hbetween, horderly, hfollows⟩ hstep
      have hnext := kept_between_drains hbetween hm hne horderly hstep
      exact ⟨hnext.1, hnext.2.1, hfollows.trans hnext.2.2⟩
  exact hkept.2.2

/-- Who is aborted leaves the registry. -/
theorem left_of_abort (habort : g.step (.abort i) = some g') (hi : g.board.connection? i = some c) :
    g'.board.stage? i = some (.ended .aborted) ∧ g'.board.registry.contains c.id = false := by
  simp only [step] at habort
  split at habort
  · obtain ⟨b, hb, rfl⟩ := Option.map_eq_some_iff.mp habort
    obtain ⟨st, hst, -, ⟨d, hd, rfl⟩ | ⟨hfree, rfl⟩⟩ := Switchboard.cutOff_cases hb
    · obtain rfl : c = d := by
        rw [Switchboard.connection?_of_stage? hst, hd] at hi
        exact (Option.some.inj hi).symm
      refine ⟨Switchboard.stage?_enter_self (b := g.board.leave c) hst, ?_⟩
      show ((g.board.registry.remove c.id).2.get? c.id).isSome = false
      rw [Registry.get?_remove, if_pos rfl]
      rfl
    · rw [Switchboard.connection?_of_stage? hst, hfree] at hi
      cases hi
  · cases habort

theorem board_of_drain {p : StopPurpose} (hstop : g.control = .stopping p .draining)
    (hdrain : g.step .proceed = some g') :
    g'.control = .stopping p .grace ∧ g'.board = (g.board.drain CloseCode.away drainReason).2 := by
  simp only [step, proceed, hstop, Option.some.injEq] at hdrain
  subst hdrain
  exact ⟨rfl, rfl⟩

/-- **The second drain of a stop finds nobody**: it comes when no session lives, and whoever was in
the registry has left it. -/
theorem nobody_at_second_drain {p : StopPurpose}
    (hrun : (fresh (.fresh router beat limit) attempts).steps ms = some g)
    (hown : ∀ ns, .register ns ∉ ms) (hstop : g.control = .stopping p .aborting)
    (hdrain : g.step .proceed = some g') :
    (g.board.drain CloseCode.away drainReason).1 = 0 ∧ g'.board.rooms = g.board.rooms := by
  have horderly : g.board.Orderly := orderly_of_steps hrun hown .fresh
  simp only [step, proceed, hstop] at hdrain
  split at hdrain
  · cases hdrain
  · rename_i hlive
    cases hdrain
    have hnobody : g.board.registry.size = 0 := horderly.size_eq_zero (Bool.eq_false_iff.mpr hlive)
    refine ⟨hnobody, ?_⟩
    have hvalues : g.board.registry.connections.values = [] :=
      List.map_eq_nil_iff.mpr (List.length_eq_zero_iff.mp hnobody)
    show Registry.closeAll _ _ g.board.registry.connections.values g.board.rooms = g.board.rooms
    rw [hvalues]
    rfl

/-- **The first drain of a stop tells who has registered by then, and nobody else.** Take a run in
which only sessions register, up to the first drain of a stop (`g₁`), and on to a session with a
connection that the supervisor aborts during the same stop, as long as nobody else drains the
registry. The session has left the registry with that.

* If its connection was in the registry once before the drain (`g₀`), say when the stop began, then
  the farewell is in its mailbox or it was passing it on.
* If it had not registered by the time of the drain, it was not told. -/
theorem told_by_first_drain {p : StopPurpose}
    (hrun : (fresh (.fresh router beat limit) attempts).steps ms₀ = some g₀)
    (hbefore : g₀.steps ms₁ = some g₁) (hstop : g₁.control = .stopping p .draining)
    (hdrain : g₁.step .proceed = some g₂) (hafter : g₂.steps ms₂ = some g) (hsame : .proceed ∉ ms₂)
    (habort : g.step (.abort i) = some g') (hi : g.board.connection? i = some c)
    (hown : ∀ ns, .register ns ∉ ms₀) (hothers : ∀ m ∈ ms₁ ++ ms₂, m.leavesRegistry = true) :
    g'.board.stage? i = some (.ended .aborted) ∧ g'.board.registry.contains c.id = false ∧
    (g₀.board.registry.get? c.id = some c → g.board.IsTold i c) ∧
    (g₁.board.connection? i ≠ some c → ¬g.board.IsTold i c) := by
  have hothers₁ : ∀ m ∈ ms₁, m.leavesRegistry = true :=
    fun m hm => hothers m (List.mem_append_left ms₂ hm)
  have hothers₂ : ∀ m ∈ ms₂, m.leavesRegistry = true :=
    fun m hm => hothers m (List.mem_append_right ms₁ hm)
  have horderly₀ : g₀.board.Orderly := orderly_of_steps hrun hown .fresh
  have horderly₁ : g₁.board.Orderly := by
    refine orderly_of_steps hbefore (fun ns hns => ?_) horderly₀
    cases hothers₁ _ hns
  obtain ⟨hgrace, hdrained⟩ := board_of_drain hstop hdrain
  have hfollows : (g₁.board.drain CloseCode.away drainReason).2.Follows g.board := by
    rw [← hdrained]
    refine follows_of_steps hafter hothers₂ hsame (hgrace ▸ rfl) ?_
    rw [hdrained]
    exact horderly₁.drain
  obtain ⟨hended, hleft⟩ := left_of_abort habort hi
  refine ⟨hended, hleft, fun hlisted => ?_, fun hlate htold => ?_⟩
  · -- the farewell was due from the beginning, and the drain has said it
    obtain ⟨-, j, hj⟩ := horderly₀.listed _ _ hlisted
    have hdue₀ : g₀.board.Due i c := by
      refine ⟨horderly₀.mailbox_lt hj, fun _ => .inl ?_⟩
      rw [Registry.contains_eq, hlisted]
      rfl
    have hdue₁ : g₁.board.Due i c := (due_of_steps hbefore hothers₁ horderly₀ hdue₀).2
    rcases hfollows.each i c hi with hsame | hnew
    · exact hsame.told.mpr (Switchboard.isTold_drain horderly₁ hsame.connection
        (hdue₁.due hsame.connection))
    · exact absurd hnew.new (Nat.not_le_of_lt (hdue₁.drain horderly₁).old)
  · rcases hfollows.each i c hi with hsame | hnew
    · exact hlate hsame.connection
    · exact hnew.untold htold

/-- A session has registered, another one is about to, and the supervisor notices that a restart is
wanted: it begins to stop. -/
def noticing : List Move :=
  opening ++ joining 0 ++
    [.accept smallAddress, .session 0 1 (.requested "/"), .request, .noticeRestart]

/-- The second session registers after the drain. When the time is up either of them can be
aborted: the first one was told, and the second one was not. -/
theorem told_by_first_drain_noticing :
    ∃ g₀ g₁ g₂ g g' g'' c d, small.steps noticing = some g₀ ∧ g₀.steps [.proceed] = some g₁ ∧
      g₁.step .proceed = some g₂ ∧ g₂.steps [.session 0 1 .wrote, .graceOver] = some g ∧
      g.step (.abort 0) = some g' ∧ g.board.connection? 0 = some c ∧ g.board.IsTold 0 c ∧
      g.step (.abort 1) = some g'' ∧ g.board.connection? 1 = some d ∧ ¬g.board.IsTold 1 d := by
  have hmain : ∃ g₀ g₁ g₂ g g' g'' c d, small.steps noticing = some g₀ ∧
      g₀.steps [.proceed] = some g₁ ∧ g₁.step .proceed = some g₂ ∧
      g₂.steps [.session 0 1 .wrote, .graceOver] = some g ∧ g.step (.abort 0) = some g' ∧
      g.step (.abort 1) = some g'' ∧ g.board.connection? 0 = some c ∧
      g.board.connection? 1 = some d ∧ g₁.control = .stopping (.rebind 8080) .draining ∧
      g₀.board.registry.get? c.id = some c ∧ g₁.board.connection? 1 = none :=
    ⟨_, _, _, _, _, _, _, _, rfl, rfl, rfl, rfl, rfl, rfl, rfl, rfl, rfl, rfl, rfl⟩
  obtain ⟨g₀, g₁, g₂, g, g', g'', c, d, hrun, hbefore, hdrain, hafter, habort, habort', hc, hd,
    hstop, hlisted, hlate⟩ := hmain
  have hown : ∀ ns, .register ns ∉ noticing := by
    intro ns h
    simp [noticing, opening, joining] at h
  have hfirst := told_by_first_drain hrun hbefore hstop hdrain hafter (by simp) habort hc hown
    (by decide)
  have hsecond := told_by_first_drain hrun hbefore hstop hdrain hafter (by simp) habort' hd
    hown (by decide)
  exact ⟨g₀, g₁, g₂, g, g', g'', c, d, hrun, hbefore, hdrain, hafter, habort, hc,
    hfirst.2.2.1 hlisted, habort', hd, hsecond.2.2.2 (by simp [hlate])⟩

/-- **Not everybody is told**: a session that registers and greets its client while the gateway
stops, but after the first drain, is aborted by the supervisor though no frame was ever put into
its mailbox. -/
theorem not_told_late :
    ∃ g₀ g g' c, small.steps noticing = some g₀ ∧ g₀.control = .stopping (.rebind 8080) .closing ∧
      g₀.steps [.proceed, .proceed, .session 0 1 .wrote, .session 0 1 .wrote, .graceOver] = some g ∧
      g.board.connection? 1 = some c ∧ g.board.registry.get? c.id = some c ∧
      g.step (.abort 1) = some g' ∧ g.board.rooms.frames c.mailbox = [] ∧ ¬g.board.IsTold 1 c := by
  have hmain : ∃ g₀ g g' c, small.steps noticing = some g₀ ∧
      g₀.control = .stopping (.rebind 8080) .closing ∧
      g₀.steps [.proceed, .proceed, .session 0 1 .wrote, .session 0 1 .wrote, .graceOver] = some g ∧
      g.board.connection? 1 = some c ∧ g.board.registry.get? c.id = some c ∧
      g.step (.abort 1) = some g' ∧ g.board.rooms.frames c.mailbox = [] ∧
      (g.board.stage? 1).any (·.passesOn farewell) = false :=
    ⟨_, _, _, _, rfl, rfl, rfl, rfl, rfl, rfl, rfl, rfl⟩
  obtain ⟨g₀, g, g', c, hrun, hstop, hsteps, hc, hlisted, habort, hframes, hpasses⟩ := hmain
  refine ⟨g₀, g, g', c, hrun, hstop, hsteps, hc, hlisted, habort, hframes, ?_⟩
  rw [Switchboard.IsTold, hframes, hpasses]
  simp

end Gateway

end SocketGateway
