import SocketGateway.Proofs.Postings

/-!
# What a connection delivers

The mailbox of a connection is a queue. What its task has taken out of it, followed by what is still in
it, is all that was ever put into it, in the same order: so what the client gets is the beginning of what
was sent, up to the first close frame at most. A close frame is the last thing that the task writes,
wherever it comes from. Once the task has gone the mailbox takes nothing more.
-/

namespace SocketGateway

open SocketGateway.Config (Heartbeat)
open SocketGateway.Wire (CloseCode CloseNotice Frame)

/-! ## Frames out of the mailbox -/

def Occasion.outbound? : Occasion → Option Frame
  | .outbound f => some f
  | _ => none

theorem Occasion.outbound?_eq_none {o : Occasion} (h : ∀ f, o ≠ .outbound f) :
    o.outbound? = none := by
  cases o with
  | outbound f => exact absurd rfl (h f)
  | _ => rfl

/-- What a task writes a close frame for is the end. -/
theorem Occasion.exists_verdict {h : Heartbeat} {silence : Nat} {o : Occasion}
    {n : Option CloseNotice} (hreply : o.reply? h silence = some (.close n)) :
    ∃ reason, o.verdict? h silence = some reason := by
  cases o with
  | inbound f =>
      cases f with
      | text s =>
          cases hdecode : ClientMessage.decode s with
          | ok m => cases m <;> simp [reply?, verdict?, hdecode] at hreply ⊢
          | error e => simp [reply?, hdecode, Drive.invalidFrame, Drive.errorFrame] at hreply
      | _ => simp [reply?, Drive.binaryFrame, Drive.errorFrame] at hreply
  | outbound f => cases f <;> simp [reply?, verdict?] at hreply ⊢
  | tick =>
      by_cases hlate : h.deadline < silence <;> simp [reply?, verdict?, hlate] at hreply ⊢
  | _ => cases hreply

namespace Dealing

variable {h : Heartbeat} {t : Dealing} {ts : List Dealing} {f : Frame} {n : Option CloseNotice}

def taken (ts : List Dealing) : List Frame := ts.filterMap (·.occasion.outbound?)

def delivered (ts : List Dealing) : List Frame :=
  ts.filterMap fun t => if t.written = some true then t.occasion.outbound? else none

/-- After a frame out of the mailbox the task goes on only if that was written, and no close frame. -/
theorem written_of_waiting (hmode : t.mode h = .waiting) (ho : t.occasion.outbound? = some f) :
    t.written = some true ∧ ∀ n, f ≠ .close n := by
  obtain ⟨hdone, hreason⟩ := mode_eq_waiting_iff.mp hmode
  obtain ⟨o, silence, written⟩ := t
  cases o with
  | outbound g =>
      cases ho
      obtain ⟨hverdict, hwritten⟩ := Option.or_eq_none_iff.mp hreason
      constructor
      · cases written with
        | none => simp [isDone, Occasion.reply?] at hdone
        | some ok => cases ok <;> simp at hwritten ⊢
      · rintro n rfl
        cases hverdict
  | _ => cases ho

/-- After a close frame the task does not go on. -/
theorem attempt?_of_waiting (hmode : t.mode h = .waiting) (ok : Bool) :
    t.attempt? h ≠ some (.frame (.close n), ok) := by
  intro hattempt
  obtain ⟨-, hreason⟩ := mode_eq_waiting_iff.mp hmode
  unfold attempt? at hattempt
  split at hattempt
  · rename_i f _ hreply _
    obtain ⟨hf, -⟩ := Prod.mk.inj (Option.some.inj hattempt)
    obtain rfl := Writing.frame.inj hf
    obtain ⟨reason, hverdict⟩ := Occasion.exists_verdict hreply
    cases hverdict.symm.trans (Option.or_eq_none_iff.mp hreason).1
  · cases hattempt

/-- **Only a close frame out of the mailbox** is an end that the server wanted, when its writing is
over. -/
theorem outbound_of_end (hend : t.end? h = some .serverClosed) :
    ∃ n ok, t.occasion = .outbound (.close n) ∧ t.written = some ok := by
  unfold end? at hend
  split at hend
  · rename_i hdone
    have hverdict : t.occasion.verdict? h t.silence = some .serverClosed := by
      rcases Option.or_eq_some_iff.mp hend with hverdict | ⟨-, hfailed⟩
      · exact hverdict
      · split at hfailed <;> cases hfailed
    obtain ⟨o, silence, written⟩ := t
    cases o with
    | inbound f =>
        cases f with
        | text s =>
            simp only [Occasion.verdict?] at hverdict
            split at hverdict <;> cases hverdict
        | _ => cases hverdict
    | outbound f =>
        cases f with
        | close n =>
            cases written with
            | none => simp [isDone, Occasion.reply?] at hdone
            | some ok => exact ⟨n, ok, rfl, rfl⟩
        | _ => cases hverdict
    | tick =>
        simp only [Occasion.verdict?] at hverdict
        split at hverdict <;> cases hverdict
    | _ => cases hverdict
  · cases hend

/-- All was written that was taken before the task waits. -/
theorem delivered_eq_taken (hts : ∀ t ∈ ts, t.mode h = .waiting) : delivered ts = taken ts := by
  refine List.filterMap_congr fun t ht => ?_
  cases ho : t.occasion.outbound? with
  | none => simp
  | some f => rw [if_pos (written_of_waiting (hts t ht) ho).1]

/-- Only what was taken last may not have been written. -/
theorem delivered_prefix (hts : ∀ t ∈ ts.dropLast, t.mode h = .waiting) :
    delivered ts <+: taken ts := by
  rcases List.eq_nil_or_concat ts with rfl | ⟨init, t, rfl⟩
  · exact List.prefix_rfl
  · rw [List.concat_eq_append, List.dropLast_concat] at hts
    have hlast : delivered [t] <+: taken [t] := by
      cases ho : t.occasion.outbound? with
      | none => simp [delivered, taken, ho]
      | some f => by_cases hwritten : t.written = some true <;> simp [delivered, taken, ho, hwritten]
    rw [List.concat_eq_append, delivered, List.filterMap_append, taken, List.filterMap_append]
    change delivered init ++ delivered [t] <+: taken init ++ taken [t]
    rw [delivered_eq_taken hts, List.prefix_append_right_inj]
    exact hlast

/-- What comes before the last thing that is kept of a list comes from before its last entry. -/
theorem mem_dropLast_filterMap {α β : Type} {g : α → Option β} {l : List α} {x : β}
    (hx : x ∈ (l.filterMap g).dropLast) : ∃ a ∈ l.dropLast, g a = some x := by
  rcases List.eq_nil_or_concat l with rfl | ⟨init, a, rfl⟩
  · cases hx
  · rw [List.concat_eq_append, List.filterMap_append] at hx
    rw [List.concat_eq_append, List.dropLast_concat, ← List.mem_filterMap]
    cases hg : g a with
    | none =>
        rw [List.filterMap_cons_none hg, List.filterMap_nil, List.append_nil] at hx
        exact List.dropLast_subset _ hx
    | some y =>
        rw [List.filterMap_cons_some hg, List.filterMap_nil, List.dropLast_concat] at hx
        exact hx

end Dealing

open Dealing (taken delivered)

namespace Logbook

variable {l : Logbook} {now : Nat} {o : Occasion} {ok : Bool}

theorem taken_woken : taken (l.note (.woken now o)).dealings = taken l.dealings ++ o.outbound?.toList := by
  cases ho : o.outbound? <;> simp [note, taken, ho]

theorem taken_written : taken (l.note (.written ok)).dealings = taken l.dealings := by
  cases hlast : l.dealings.getLast? with
  | none => simp [note, List.getLast?_eq_none_iff.mp hlast]
  | some t =>
      conv_rhs => rw [← List.dropLast_append_getLast? t hlast]
      simp only [note, hlast, taken, List.filterMap_append]
      rfl

end Logbook

namespace Switchboard

variable {b b₀ b₁ b' : Switchboard} {now i j : Nat} {cue : Cue} {c : Connection} {hs : HandlerSet}
  {d : Drive} {deed : Deed} {early ds : List Deed} {k : MailboxId} {fs queued : List Frame}

/-! ## Before a connection opens -/

theorem stage?_of_perform (hdeed : b.perform deed = some b') (hother : deed.isOf i = false) :
    b'.stage? i = b.stage? i ∨ b'.stage? i = some .handshaking := by
  have hsame : Spared i b b := .of_same rfl rfl rfl rfl
  cases deed with
  | accept peer =>
      cases hdeed
      rw [stage?_accept]
      split
      · exact .inr rfl
      · exact .inl rfl
  | session now j cue =>
      have hji : j ≠ i := of_decide_eq_false hother
      exact .inl ((kept_spared hji).sessionMove (sessionMove_of_advance hdeed) hsame).stage
  | cutOff j o =>
      have hji : j ≠ i := of_decide_eq_false hother
      exact .inl ((kept_spared hji).cutOff hdeed hsame).stage
  | register ns =>
      cases hdeed
      exact .inl (registerLoose_cases (P := fun b' => b'.stage? i = b.stage? i) (fun _ => rfl) rfl)
  | _ =>
      cases hdeed
      exact .inl rfl

/-- A session with a connection is past its greeting after a move. -/
theorem Fares.not_greeting {st : Stage} (hst : b.stage? i = some st)
    (h : Fares c.mailbox i c hs b b') {e : Connection} {hs' : HandlerSet} :
    b'.stage? i ≠ some (.greeting e hs') := by
  intro hgreeting
  cases h with
  | on _ stage =>
      obtain ⟨d, hopen⟩ := stage rfl
      cases hopen.symm.trans hgreeting
  | @off b₁ o _ _ sessions =>
      have hended : (b₁.exit i c o).stage? i = some (.ended o) :=
        stage?_enter_self (b := b₁.leave c) ((stage?_congr sessions).trans hst)
      cases hended.symm.trans hgreeting

/-- Who has to greet a client after a move has registered with the newest mailbox. -/
theorem joins_of_greeting (hmove : SessionMove b now i b')
    (hgreeting : b'.stage? i = some (.greeting c hs)) :
    c.mailbox = b.rooms.next ∧ b'.rooms = b.rooms.create := by
  cases hmove with
  | @upgrade st st' stage _ _ _ free' =>
      cases (stage?_enter_self stage).symm.trans hgreeting
      cases free'
  | join stage =>
      revert hgreeting
      refine join_cases (P := fun b' => b'.stage? i = some (.greeting c hs) →
        c.mailbox = b.rooms.next ∧ b'.rooms = b.rooms.create)
        (fun registry _ hgreeting => ?_) fun _ _ hgreeting => ?_
      · cases (stage?_enter_self (b := { b with rooms := b.rooms.create, registry := registry })
          stage).symm.trans hgreeting
        exact ⟨rfl, rfl⟩
      · cases (stage?_enter_self (b := { b with rooms := b.rooms.create.hangUp b.rooms.next })
          stage).symm.trans hgreeting
  | begin stage => exact absurd hgreeting (Fares.not_greeting stage (.begin stage))
  | @ungreeted c' _ stage e =>
      cases (stage?_enter_self (b := b.leave c') stage).symm.trans hgreeting
  | written stage => exact absurd hgreeting (Fares.not_greeting stage (.settle stage .refl rfl))
  | woken stage => exact absurd hgreeting (Fares.not_greeting stage (.wake stage))
  | @taken _ _ _ _ rooms stage =>
      exact absurd hgreeting
        (Fares.not_greeting (b := { b with rooms := rooms }) stage (.wake stage))

/-- **All is there**: the mailbox of a session that has to greet its client holds all that was ever put
into it. Nothing was put into one that is not set up yet. -/
structure Untapped (b₀ : Switchboard) (ds : List Deed) (b : Switchboard) : Prop where
  unknown : ∀ k, b.rooms.next ≤ k → b₀.trace (posted k) ds = []
  greeting : ∀ i c hs, b.stage? i = some (.greeting c hs) →
    b.rooms.frames c.mailbox = b₀.trace (posted c.mailbox) ds

theorem posted_of_next_le (hk : b.rooms.next ≤ k) : posted k b deed b' = [] := by
  refine posted_of_gone (Bool.eq_false_iff.mpr fun hreceiving => ?_)
  exact Nat.not_lt.mpr hk (Mailroom.lt_next_of_isReceiving hreceiving)

theorem Untapped.step (h : b₀.Untapped ds b) (hhoused : b.Housed)
    (hrun : b₀.performAll ds = some b) (hdeed : b.perform deed = some b') :
    b₀.Untapped (ds ++ [deed]) b' := by
  refine ⟨fun k hk => ?_, fun i c hs hst => ?_⟩
  · have hold : b.rooms.next ≤ k := Nat.le_trans (next_le_of_perform hdeed) hk
    rw [trace_snoc hrun hdeed, h.unknown k hold, posted_of_next_le hold, List.append_nil]
  · rw [trace_snoc hrun hdeed]
    by_cases hother : deed.isOf i = false
    · rcases stage?_of_perform hdeed hother with hsame | hnew
      · have hst₀ := hsame.symm.trans hst
        have hi := connection?_of_stage? hst₀
        rw [(gets_of_perform (hhoused.mailbox_lt hi) (fun j e hj he hm => ?_) hdeed).frames,
          h.greeting i c hs hst₀]
        · rfl
        · obtain rfl := hhoused.apart j i e c he hi hm
          cases hj.symm.trans hother
      · cases hnew.symm.trans hst
    · rcases Deed.own_cases hother with ⟨now, cue, rfl⟩ | ⟨o, rfl⟩
      · obtain ⟨hnew, hrooms⟩ := joins_of_greeting (sessionMove_of_advance hdeed) hst
        have hnext : b.rooms.next ≤ c.mailbox := Nat.le_of_eq hnew.symm
        rw [hrooms, h.unknown _ hnext, posted_of_next_le hnext, Mailroom.frames_create, hnew,
          Mailroom.frames_next]
        rfl
      · obtain ⟨st, hst₀, -, ⟨e, -, rfl⟩ | ⟨-, rfl⟩⟩ := cutOff_cases hdeed
        · cases (stage?_enter_self (b := b.leave e) hst₀).symm.trans hst
        · cases (stage?_enter_self hst₀).symm.trans hst

theorem Untapped.of_fresh {router : Router HandlerSet} {beat : Heartbeat} {limit : Nat}
    (hrun : (fresh router beat limit).performAll ds = some b) :
    (fresh router beat limit).Untapped ds b := by
  refine performAll_induction (P := (fresh router beat limit).Untapped) hrun ?_
    fun ds mid deed b hmid huntapped hdeed => ?_
  · refine ⟨fun _ _ => rfl, fun i c hs hst => ?_⟩
    simp [fresh, stage?] at hst
  · exact huntapped.step (Housed.fresh.performAll hmid) hmid hdeed

/-! ## While a connection is open -/

/-- **How frames flow** from a mailbox. While its connection is open, what was taken and what is there
is what was queued; when the session has ended its mailbox is gone for good. -/
inductive Flow (i : Nat) (c : Connection) (hs : HandlerSet) (fs queued : List Frame)
    (b : Switchboard) : Prop
  | on {d : Drive} (stage : b.stage? i = some (.open c hs d))
      (account : fs ++ b.rooms.frames c.mailbox = queued)
  | off {o : Outcome} (stage : b.stage? i = some (.ended o)) (known : c.mailbox < b.rooms.next)
      (gone : b.rooms.isReceiving c.mailbox = false) (empty : b.rooms.frames c.mailbox = [])
      (account : fs <+: queued)

namespace Flow

theorem taken_prefix (h : Flow i c hs fs queued b) : fs <+: queued := by
  cases h with
  | on _ account => exact ⟨_, account⟩
  | off _ _ _ _ account => exact account

/-- Others only put frames into the mailbox. -/
theorem other (h : Flow i c hs fs queued b) (hhoused : b.Housed)
    (hdeed : b.perform deed = some b') (hother : deed.isOf i = false) :
    Flow i c hs fs (queued ++ posted c.mailbox b deed b') b' := by
  cases h with
  | on stage account =>
      have hi := connection?_of_stage? stage
      have hapart : ∀ j e, deed.isOf j = true → b.connection? j = some e →
          e.mailbox ≠ c.mailbox := by
        intro j e hj he hm
        obtain rfl := hhoused.apart j i e c he hi hm
        cases hj.symm.trans hother
      have hgets := gets_of_perform (hhoused.mailbox_lt hi) hapart hdeed
      refine .on ((spared_of_perform stage hdeed hother).stage.trans stage) ?_
      rw [hgets.frames, ← List.append_assoc, account]
      rfl
  | off stage known gone empty account =>
      have hapart : ∀ j e, deed.isOf j = true → b.connection? j = some e →
          e.mailbox ≠ c.mailbox := by
        intro j e _ he hm
        have hreceiving := hhoused.receiving j e he
        rw [hm, gone] at hreceiving
        cases hreceiving
      have hgets := gets_of_perform known hapart hdeed
      refine .off ((spared_of_perform stage hdeed hother).stage.trans stage)
        (Nat.lt_of_lt_of_le known hgets.next) (hgets.receiving.trans gone) ?_
        (account.trans (List.prefix_append _ _))
      rw [hgets.frames, empty, gone]
      rfl

/-- A session that exits gives up its mailbox. -/
theorem exit {st : Stage} {o : Outcome} (hst : b.stage? i = some st)
    (hreceiving : b.rooms.isReceiving c.mailbox = true) (account : fs <+: queued) :
    Flow i c hs fs queued (b.exit i c o) := by
  have hknown : c.mailbox < b.rooms.next := Mailroom.lt_next_of_isReceiving hreceiving
  refine .off (stage?_enter_self (b := b.leave c) hst) ?_ ?_ ?_ account
  · exact Nat.lt_of_lt_of_le hknown (Nat.le_of_eq Mailroom.next_hangUp.symm)
  · exact Mailroom.isReceiving_hangUp.trans (if_pos rfl)
  · exact Mailroom.frames_hangUp_self

/-- A session goes on, and its handlers may put frames into its mailbox. -/
theorem of_fares (hst : b.stage? i = some (.open c hs d))
    (hreceiving : b.rooms.isReceiving c.mailbox = true)
    (haccount : fs ++ b.rooms.frames c.mailbox = queued) (h : Fares c.mailbox i c hs b b') :
    Flow i c hs fs (queued ++ posted c.mailbox b (.session now i cue) b') b' := by
  cases h with
  | on puts stage =>
      obtain ⟨d', hst'⟩ := stage rfl
      rw [← handlersOf_of_stage? hst rfl] at puts
      refine .on hst' ?_
      rw [(puts.gets now cue).frames, ← List.append_assoc, haccount]
      rfl
  | off _ puts sessions =>
      obtain ⟨_, -, hrooms⟩ := puts
      refine exit ((stage?_congr sessions).trans hst) (hrooms.receiving.trans hreceiving) ?_
      rw [← haccount, List.append_assoc]
      exact List.prefix_append _ _

/-- A session takes the oldest frame out of its mailbox. -/
theorem of_take {f : Frame} {rooms : Mailroom} (hst : b.stage? i = some (.open c hs d))
    (hreceiving : b.rooms.isReceiving c.mailbox = true)
    (haccount : fs ++ b.rooms.frames c.mailbox = queued)
    (htake : b.rooms.take c.mailbox = (some f, rooms)) :
    Flow i c hs (fs ++ [f]) (queued ++ posted c.mailbox b (.session now i cue)
        ({ b with rooms := rooms }.wake i now c hs d (.outbound f)))
      ({ b with rooms := rooms }.wake i now c hs d (.outbound f)) := by
  obtain ⟨hframes, -, hsame⟩ := Mailroom.take_spec htake
  have haccount' : fs ++ [f] ++ rooms.frames c.mailbox = queued := by
    rw [← haccount, hframes, List.append_assoc]
    rfl
  have hwoken : Fares c.mailbox i c hs { b with rooms := rooms }
      ({ b with rooms := rooms }.wake i now c hs d (.outbound f)) := .wake hst
  -- what the deed has for the mailbox does not depend on what was in it
  have hposted : ∀ b', posted c.mailbox { b with rooms := rooms } (.session now i cue) b' =
      posted c.mailbox b (.session now i cue) b' := by
    intro b'
    simp only [posted, hsame]
    rfl
  rw [← hposted]
  exact of_fares (b := { b with rooms := rooms }) hst ((hsame _).trans hreceiving) haccount' hwoken

/-- A session that is cut off gives up its mailbox. -/
theorem cutOff {o : Outcome} (h : Flow i c hs fs queued b) (hhoused : b.Housed)
    (hcut : b.cutOff i o = some b') : Flow i c hs fs queued b' := by
  obtain ⟨st, hst, hlive, hcases⟩ := cutOff_cases hcut
  cases h with
  | on stage account =>
      cases hst.symm.trans stage
      rcases hcases with ⟨e, he, rfl⟩ | ⟨hnone, -⟩
      · cases he
        refine exit hst (hhoused.receiving i c (connection?_of_stage? hst)) ?_
        rw [← account]
        exact List.prefix_append _ _
      · cases hnone
  | off stage =>
      cases hst.symm.trans stage
      cases hlive

/-- **What any deed does to the flow.** -/
theorem step {start : Nat} (h : Flow i c hs (taken (b₀.logbook i start ds).dealings) queued b)
    (hhoused : b.Housed) (hrun : b₀.performAll ds = some b) (hdeed : b.perform deed = some b') :
    Flow i c hs (taken (b₀.logbook i start (ds ++ [deed])).dealings)
      (queued ++ posted c.mailbox b deed b') b' := by
  by_cases hother : deed.isOf i = false
  · rw [logbook_snoc_of_other hrun hdeed hother]
    exact h.other hhoused hdeed hother
  · rcases Deed.own_cases hother with ⟨now, cue, rfl⟩ | ⟨o, rfl⟩
    · cases h with
      | off stage =>
          -- a session that has ended does not go on
          obtain ⟨st, hst, hlive⟩ := (sessionMove_of_advance hdeed).isLive
          cases stage.symm.trans hst
          cases hlive
      | @on d stage account =>
          have hreceiving := hhoused.receiving i c (connection?_of_stage? stage)
          cases openStep_of_advance stage hdeed with
          | written _ signal =>
              rw [logbook_snoc_of_signal hrun hdeed signal, Logbook.taken_written]
              exact of_fares stage hreceiving account (.settle stage .refl rfl)
          | woken _ signal _ own =>
              have hnone : Occasion.outbound? _ = none := Occasion.outbound?_eq_none own
              rw [logbook_snoc_of_signal hrun hdeed signal, Logbook.taken_woken, hnone]
              exact of_fares stage hreceiving ((List.append_nil _).symm ▸ account) (.wake stage)
          | taken _ signal _ take =>
              rw [logbook_snoc_of_signal hrun hdeed signal, Logbook.taken_woken]
              exact of_take stage hreceiving account take
    · have hnothing : posted c.mailbox b (.cutOff i o) b' = [] := ite_self _
      rw [logbook_snoc_of_cutOff hrun hdeed, hnothing, List.append_nil]
      exact h.cutOff hhoused hdeed

theorem of_performAll (hhoused : b.Housed) (hst : b.stage? i = some (.open c hs d))
    (hrun : b.performAll ds = some b') :
    Flow i c hs (taken (b.logbook i d.lastSeen ds).dealings)
      (b.rooms.frames c.mailbox ++ b.trace (posted c.mailbox) ds) b' := by
  refine performAll_induction (P := fun ds b' =>
    Flow i c hs (taken (b.logbook i d.lastSeen ds).dealings)
      (b.rooms.frames c.mailbox ++ b.trace (posted c.mailbox) ds) b')
    hrun (.on hst (List.append_nil _).symm) fun ds mid deed b' hmid hflow hdeed => ?_
  rw [trace_snoc hmid hdeed, ← List.append_assoc]
  exact hflow.step (hhoused.performAll hmid) hmid hdeed

end Flow

/-! ## The main result -/

/-- A connection opens with all in its mailbox that was ever put into it, its first handler included. -/
theorem frames_of_opening {router : Router HandlerSet} {beat : Heartbeat} {limit : Nat}
    (hreach : (fresh router beat limit).performAll early = some b₀)
    (hgreeting : b₀.stage? i = some (.greeting c hs))
    (hopens : b₀.perform (.session now i .wrote) = some b)
    (hst : b.stage? i = some (.open c hs d)) :
    d.mode = .waiting ∧ b.rooms.frames c.mailbox =
      (fresh router beat limit).trace (posted c.mailbox) (early ++ [.session now i .wrote]) := by
  have hbegins : b₀.begin i now c hs = b := by simpa [perform, advance, hgreeting] using hopens
  have hbegun : d.mode = .waiting ∧ HasPut c.mailbox hs b₀ b := by
    subst hbegins
    revert hst
    refine begin_cases (P := fun b => b.stage? i = some (.open c hs d) →
      d.mode = .waiting ∧ HasPut c.mailbox hs b₀ b) (fun _ _ hst => ?_) fun _ hst => ?_
    · have hcalled : (b₀.call i c hs .connect).1.stage? i = some (.greeting c hs) :=
        (stage?_congr aside_call.sessions).trans hgreeting
      cases (stage?_enter_self hcalled).symm.trans hst
      exact ⟨rfl, HasPut.call.trans (.of_rooms rfl .refl)⟩
    · have hcalled : ((b₀.call i c hs .connect).1.leave c).stage? i = some (.greeting c hs) :=
        (stage?_congr aside_call.sessions).trans hgreeting
      cases (stage?_enter_self hcalled).symm.trans hst
  obtain ⟨hmode, hput⟩ := hbegun
  refine ⟨hmode, ?_⟩
  rw [← handlersOf_of_stage? hgreeting rfl] at hput
  rw [trace_snoc hreach hopens, (hput.gets now .wrote).frames,
    (Untapped.of_fresh hreach).greeting i c hs hgreeting]
  rfl

/-- **Nothing can be put into a mailbox that is gone**, and whoever tries is told so. -/
theorem closed_of_gone (hgone : b.rooms.isReceiving k = false) :
    (∀ s : Socket, s.mailbox = k →
      (∀ name args, b.emit s name args = (.error (.connectionClosed s.id), b)) ∧
      ∀ reason, b.close s reason = (.error (.connectionClosed s.id), b)) ∧
    ∀ e : Connection, e.mailbox = k → ∀ code reason,
      e.close b.rooms code reason = (false, b.rooms) := by
  have hpost : ∀ f, b.rooms.post k f = (false, b.rooms) := by
    intro f
    simp [Mailroom.post, hgone]
  constructor
  · rintro s rfl
    have hsend : ∀ f, s.send b.rooms f = (.error (.connectionClosed s.id), b.rooms) := by
      intro f
      rw [Socket.send, hpost]
    constructor
    · intro name args
      rw [emit, Socket.emit, hsend]
    · intro reason
      rw [close, Socket.close, hsend]
  · rintro e rfl code reason
    exact hpost _

/-- Handlers are told only the reason that the logbook gives. -/
theorem Tells.end?_of_call {l : Logbook} {ks : List CallKind} {reason : DisconnectReason}
    (h : b.Tells i c hs l ds b') (hks : b'.callsOf i = b.callsOf i ++ ks)
    (hreason : .disconnect reason ∈ ks) : l.end? b.heartbeat = some reason := by
  have hcalls := h.calls
  rw [hks, List.append_assoc, List.append_right_inj] at hcalls
  rw [hcalls, List.mem_append, Option.mem_toList, Option.map_eq_some_iff] at hreason
  rcases hreason with hevent | ⟨_, hend, heq⟩
  · obtain ⟨_, -, heq⟩ := List.mem_map.mp hevent
    cases heq
  · cases heq
    exact hend

/-- **A connection delivers in order, up to the first close frame**, from when it opens, whatever comes
and whoever puts frames into its mailbox.

* What it takes out of its mailbox is the beginning of all that was ever put into it, in the same order;
  it writes these frames among those of its own, and only the last one of them may not have been
  written.
* A close frame is the last that it takes, and the last frame that it writes at all.
* If its handlers are told that the server closed it, the first close frame was taken, and all that
  came before was written before that.
* While it is open, what is left is still in its mailbox. Once the session has ended, nothing is put
  into the mailbox any more, and whoever tries to is told so. -/
theorem delivers_in_order {router : Router HandlerSet} {beat : Heartbeat} {limit : Nat}
    (hreach : (fresh router beat limit).performAll early = some b₀)
    (hgreeting : b₀.stage? i = some (.greeting c hs))
    (hopens : b₀.perform (.session now i .wrote) = some b)
    (hst : b.stage? i = some (.open c hs d)) (hrun : b.performAll ds = some b') :
    ∃ ts queued, (b.logbook i d.lastSeen ds).dealings = ts ∧
      (fresh router beat limit).trace (posted c.mailbox) (early ++ .session now i .wrote :: ds) =
        queued ∧
      attempts i (b.footsteps i ds) = ts.filterMap (Dealing.attempt? b.heartbeat) ∧
      delivered ts <+: taken ts ∧ taken ts <+: queued ∧
      (∀ n, .close n ∉ (taken ts).dropLast) ∧
      (∀ n ok, (.frame (.close n), ok) ∉ (attempts i (b.footsteps i ds)).dropLast) ∧
      (∀ ks, b'.callsOf i = b.callsOf i ++ ks → .disconnect .serverClosed ∈ ks →
        ∃ before t n ok rest, ts = before ++ [t] ∧ t.occasion = .outbound (.close n) ∧
          t.written = some ok ∧ queued = delivered before ++ .close n :: rest ∧
          ∀ n', .close n' ∉ delivered before) ∧
      ((∃ d', b'.stage? i = some (.open c hs d') ∧ b'.rooms.isReceiving c.mailbox = true ∧
          taken ts ++ b'.rooms.frames c.mailbox = queued) ∨
        ∃ o, b'.stage? i = some (.ended o) ∧ b'.rooms.frames c.mailbox = [] ∧
          (∀ s : Socket, s.mailbox = c.mailbox →
            (∀ name args, b'.emit s name args = (.error (.connectionClosed s.id), b')) ∧
            ∀ reason, b'.close s reason = (.error (.connectionClosed s.id), b')) ∧
          ∀ e : Connection, e.mailbox = c.mailbox → ∀ code reason,
            e.close b'.rooms code reason = (false, b'.rooms)) := by
  have hhoused : b.Housed := (Housed.fresh.performAll hreach).perform hopens
  obtain ⟨hmode, hframes⟩ := frames_of_opening hreach hgreeting hopens hst
  have htells := Tells.of_performAll hst hmode hrun
  have hflow := Flow.of_performAll hhoused hst hrun
  have hqueued : (fresh router beat limit).trace (posted c.mailbox)
      (early ++ .session now i .wrote :: ds) =
      b.rooms.frames c.mailbox ++ b.trace (posted c.mailbox) ds := by
    rw [trace_append hreach, trace_cons hopens, hframes, trace_snoc hreach hopens,
      List.append_assoc]
  rw [← hqueued] at hflow
  have hbefore := htells.before
  refine ⟨_, _, rfl, rfl, htells.attempts, Dealing.delivered_prefix hbefore, hflow.taken_prefix,
    fun n hn => ?_, fun n ok hn => ?_, fun ks hks hclosed => ?_, ?_⟩
  · obtain ⟨t, ht, ho⟩ := Dealing.mem_dropLast_filterMap hn
    exact (Dealing.written_of_waiting (hbefore t ht) ho).2 n rfl
  · rw [htells.attempts] at hn
    obtain ⟨t, ht, hattempt⟩ := Dealing.mem_dropLast_filterMap hn
    exact Dealing.attempt?_of_waiting (hbefore t ht) ok hattempt
  · have hend := htells.end?_of_call hks hclosed
    obtain ⟨t, hlast, hend⟩ := Option.bind_eq_some_iff.mp hend
    obtain ⟨n, ok, ho, hwritten⟩ := Dealing.outbound_of_end hend
    have hsplit := (List.dropLast_append_getLast? t hlast).symm
    obtain ⟨rest, hrest⟩ := hflow.taken_prefix
    rw [hsplit, taken, List.filterMap_append] at hrest
    have hdelivered := Dealing.delivered_eq_taken hbefore
    refine ⟨_, t, n, ok, rest, hsplit, ho, hwritten, ?_, fun n' hn' => ?_⟩
    · rw [← hrest, hdelivered]
      simp [taken, ho, Occasion.outbound?]
    · rw [hdelivered] at hn'
      obtain ⟨t', ht', ho'⟩ := List.mem_filterMap.mp hn'
      exact (Dealing.written_of_waiting (hbefore t' ht') ho').2 n' rfl
  · have hhoused' := hhoused.performAll hrun
    cases hflow with
    | on stage account =>
        exact .inl ⟨_, stage, hhoused'.receiving i c (connection?_of_stage? stage), account⟩
    | off stage _ gone empty => exact .inr ⟨_, stage, empty, closed_of_gone gone⟩

def echoing : Switchboard := fresh (.shared ["/a"] .recording) ⟨25000, 20000⟩ 4

/-- A client joins, and somebody has an event for it before it is greeted. -/
def welcoming : List Deed :=
  [.accept Gateway.smallAddress, .session 0 0 (.requested "/a"), .session 0 0 .wrote,
    .emit ⟨"", .root, 0⟩ "news" []]

/-- The client sends an event, the registry is drained, and somebody has one more event for the client.
The task writes what it can, but not the close frame. -/
def goodbye : List Deed :=
  [.session 1 0 (.inbound (.text "\x7b\"type\":\"event\",\"event\":\"echo\"\x7d")),
    .drain CloseCode.away "restart", .emit ⟨"", .root, 0⟩ "late" [],
    .session 2 0 .outbound, .session 2 0 .wrote, .session 3 0 .outbound, .session 3 0 .wrote,
    .session 4 0 .outbound, .session 4 0 (.writeFailed .wrongMethod)]

def mail : List Frame :=
  [Socket.eventFrame "news" [], Socket.eventFrame "echo" [], .closing CloseCode.away "restart",
    Socket.eventFrame "late" []]

/-- All that was put into the mailbox before the close frame is delivered, and nothing after it. -/
theorem delivers_in_order_goodbye :
    ∃ b₀ b b', echoing.performAll welcoming = some b₀ ∧
      b₀.perform (.session 0 0 .wrote) = some b ∧ b.performAll goodbye = some b' ∧
      echoing.trace (posted 0) (welcoming ++ .session 0 0 .wrote :: goodbye) = mail ∧
      delivered (b.logbook 0 0 goodbye).dealings = mail.take 2 ∧
      (∃ before t n ok rest, (b.logbook 0 0 goodbye).dealings = before ++ [t] ∧
        t.occasion = .outbound (.close n) ∧ t.written = some ok ∧
        mail = delivered before ++ .close n :: rest) ∧
      b'.emit ⟨"", .root, 0⟩ "late" [] = (.error (.connectionClosed ""), b') := by
  have hmain : ∃ b₀ b c hs d, echoing.performAll welcoming = some b₀ ∧
      b₀.stage? 0 = some (.greeting c hs) ∧ b₀.perform (.session 0 0 .wrote) = some b ∧
      b.stage? 0 = some (.open c hs d) ∧ d.mode = .waiting ∧ c.mailbox = 0 ∧ d.lastSeen = 0 ∧
      (b.performAll goodbye).any (fun b' => (b'.connection? 0).isNone) = true ∧
      (b.logbook 0 0 goodbye).end? b.heartbeat = some .serverClosed ∧
      delivered (b.logbook 0 0 goodbye).dealings = mail.take 2 :=
    ⟨_, _, _, _, _, rfl, rfl, rfl, rfl, rfl, rfl, rfl, by decide +kernel, by decide +kernel,
      by decide +kernel⟩
  obtain ⟨b₀, b, c, hs, d, hreach, hgreeting, hopens, hst, hmode, hmailbox, hheard, hruns, hend,
    hdelivered⟩ := hmain
  obtain ⟨b', hrun, hgone⟩ := (Option.any_eq_true _ _).mp hruns
  have hqueued : echoing.trace (posted 0) (welcoming ++ .session 0 0 .wrote :: goodbye) = mail := by
    decide +kernel
  obtain ⟨ts, queued, hts, htrace, -, -, -, -, -, hclosed, hstands⟩ :=
    delivers_in_order hreach hgreeting hopens hst hrun
  rw [hmailbox] at htrace
  rw [hheard] at hts
  have hcalls := (Tells.of_performAll hst hmode hrun).calls
  rw [hheard, hend, List.append_assoc] at hcalls
  obtain ⟨before, t, n, ok, rest, hsplit, ho, hwritten, hrest, -⟩ :=
    hclosed _ hcalls (List.mem_append_right _ (List.mem_singleton_self _))
  refine ⟨b₀, b, b', hreach, hopens, hrun, hqueued, hdelivered,
    ⟨before, t, n, ok, rest, hts.trans hsplit, ho, hwritten, ?_⟩, ?_⟩
  · rw [← hrest, ← htrace]
    exact hqueued.symm
  · rcases hstands with ⟨d', hst', -, -⟩ | ⟨o, -, -, hclosed, -⟩
    · rw [connection?_of_stage? hst'] at hgone
      cases hgone
    · exact (hclosed ⟨"", .root, 0⟩ hmailbox.symm).1 "late" []

end Switchboard

end SocketGateway
