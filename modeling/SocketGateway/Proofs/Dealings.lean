import SocketGateway.Proofs.Departures

/-!
# What an open connection deals with

The task of an open connection deals with one thing at a time: something wakes it up, it may write a
frame, and then it waits again or has come to its end. The tables below say of each occasion by itself
which event it is, which frame is written for it, and whether it ends the connection. Whatever mix of
occasions comes, whatever can be written, and whatever other sessions do in between, nothing else is
called for, written, or decided on.
-/

namespace SocketGateway

open SocketGateway.Config (Heartbeat)
open SocketGateway.Wire (Frame)

/-! ## Tables of occasions -/

namespace Occasion

def isInbound : Occasion → Bool
  | .inbound _ => true
  | _ => false

def event? : Occasion → Option ClientEvent
  | .inbound (.text s) =>
    match ClientMessage.decode s with
    | .ok (.event name args) => some (name, args)
    | _ => none
  | _ => none

/-- The frame that is written, after the client was silent for some time. -/
def reply? (h : Heartbeat) (silence : Nat) : Occasion → Option Frame
  | .inbound (.text s) =>
    match ClientMessage.decode s with
    | .ok (.event ..) => none
    | .ok .disconnect => some (.close none)
    | .error e => some (Drive.invalidFrame e)
  | .inbound (.binary _) => some Drive.binaryFrame
  | .inbound _ | .readFailed | .streamEnded => none
  | .outbound f => some f
  | .tick => some (if h.deadline < silence then Drive.timeoutFrame else .ping [])

/-- The reason for which the connection ends, whether or not the frame could be written. -/
def verdict? (h : Heartbeat) (silence : Nat) : Occasion → Option DisconnectReason
  | .inbound (.text s) =>
    match ClientMessage.decode s with
    | .ok .disconnect => some .clientDisconnect
    | _ => none
  | .inbound (.close _) | .streamEnded => some .clientClosed
  | .inbound _ => none
  | .readFailed => some .transportError
  | .outbound (.close _) => some .serverClosed
  | .outbound _ => none
  | .tick => if h.deadline < silence then some .pingTimeout else none

/-! ### What a client reads in an answer -/

theorem reply?_of_invalid (h : Heartbeat) (silence : Nat) {s : String} {e : Json.ReadError}
    (hdecode : ClientMessage.decode s = .error e) :
    ∃ f, reply? h silence (.inbound (.text s)) = some f ∧
      f.Conveys (.error ("invalid message: " ++ e.message)) := by
  refine ⟨Drive.invalidFrame e, ?_, Drive.conveys_errorFrame _⟩
  simp only [reply?, hdecode]

theorem reply?_of_binary (h : Heartbeat) (silence : Nat) (bytes : List UInt8) :
    ∃ f, reply? h silence (.inbound (.binary bytes)) = some f ∧
      f.Conveys (.error "binary frames are not supported") :=
  ⟨Drive.binaryFrame, rfl, Drive.conveys_errorFrame _⟩

end Occasion

/-! ## Dealings -/

/-- What an open connection dealt with: the occasion, how long the client had been silent then, and
whether the frame for it could be written, once that is known. -/
structure Dealing where
  occasion : Occasion
  silence : Nat
  written : Option Bool
deriving DecidableEq

namespace Dealing

def attempt? (h : Heartbeat) (t : Dealing) : Option (Writing × Bool) :=
  match t.occasion.reply? h t.silence, t.written with
  | some f, some ok => some (.frame f, ok)
  | _, _ => none

def isDone (h : Heartbeat) (t : Dealing) : Bool :=
  (t.occasion.reply? h t.silence).isNone || t.written.isSome

/-- The reason for which the connection ends: that of the occasion, or else that the frame could not
be written. -/
def reason? (h : Heartbeat) (t : Dealing) : Option DisconnectReason :=
  (t.occasion.verdict? h t.silence).or
    (if t.written = some false then some .transportError else none)

def end? (h : Heartbeat) (t : Dealing) : Option DisconnectReason :=
  if t.isDone h = true then t.reason? h else none

def mode (h : Heartbeat) (t : Dealing) : Mode :=
  match t.occasion.reply? h t.silence, t.written with
  | some f, none =>
    .writing f (match t.occasion.verdict? h t.silence with
      | some reason => .finish reason
      | none => .resume)
  | _, _ =>
    match t.reason? h with
    | some reason => .over reason
    | none => .waiting

variable {h : Heartbeat} {t : Dealing} {reason : DisconnectReason}

theorem mode_eq_over_iff : t.mode h = .over reason ↔ t.end? h = some reason := by
  unfold mode end? isDone
  cases t.occasion.reply? h t.silence <;> cases t.written <;> cases t.reason? h <;> simp

theorem mode_eq_waiting_iff : t.mode h = .waiting ↔ t.isDone h = true ∧ t.reason? h = none := by
  unfold mode isDone
  cases t.occasion.reply? h t.silence <;> cases t.written <;> cases t.reason? h <;> simp

theorem isDone_of_end? (he : t.end? h = none) : t.mode h = .waiting ↔ t.isDone h = true := by
  rw [mode_eq_waiting_iff]
  unfold end? at he
  constructor
  · exact And.left
  · intro hdone
    rw [if_pos hdone] at he
    exact ⟨hdone, he⟩

end Dealing

/-- **Waking up** is what the tables say. -/
theorem Drive.wake_eq (h : Heartbeat) (now : Nat) (o : Occasion) {d : Drive}
    (hd : d.mode = .waiting) :
    (d.wake h now o).2 = o.event? ∧
      (d.wake h now o).1.mode = Dealing.mode h ⟨o, now - d.lastSeen, none⟩ ∧
      (d.wake h now o).1.lastSeen = if o.isInbound = true then now else d.lastSeen := by
  cases o with
  | inbound f =>
      cases f with
      | text s =>
          cases hdecode : ClientMessage.decode s with
          | ok m =>
              cases m <;>
                simp [wake, hear, hdecode, Occasion.event?, Occasion.isInbound, Dealing.mode,
                  Dealing.reason?, Occasion.reply?, Occasion.verdict?, write, hd]
          | error e =>
              simp [wake, hear, hdecode, Occasion.event?, Occasion.isInbound, Dealing.mode,
                Occasion.reply?, Occasion.verdict?, write]
      | _ =>
          simp [wake, hear, Occasion.event?, Occasion.isInbound, Dealing.mode, Dealing.reason?,
            Occasion.reply?, Occasion.verdict?, write, Drive.stop, hd]
  | outbound f =>
      cases f <;>
        simp [wake, Occasion.event?, Occasion.isInbound, Dealing.mode, Occasion.reply?,
          Occasion.verdict?, write]
  | tick =>
      by_cases hlate : h.deadline < now - d.lastSeen <;>
        simp [wake, isOverdue, hlate, Occasion.event?, Occasion.isInbound, Dealing.mode,
          Occasion.reply?, Occasion.verdict?, write]
  | _ =>
      simp [wake, Occasion.event?, Occasion.isInbound, Dealing.mode, Dealing.reason?,
        Occasion.reply?, Occasion.verdict?, Drive.stop]

/-- A task that writes has begun a dealing, which is not done. -/
theorem Dealing.pending_of_mode {h : Heartbeat} {t : Dealing} {f : Frame} {next : After}
    (hmode : t.mode h = .writing f next) :
    t.occasion.reply? h t.silence = some f ∧ t.written = none ∧
      next = match t.occasion.verdict? h t.silence with
        | some reason => .finish reason
        | none => .resume := by
  unfold mode at hmode
  split at hmode
  · rename_i hreply hwritten
    cases hmode
    exact ⟨hreply, hwritten, rfl⟩
  · split at hmode <;> cases hmode

/-- After an event the task waits again. -/
theorem Dealing.mode_of_event {h : Heartbeat} {o : Occasion} {silence : Nat} {e : ClientEvent}
    (he : o.event? = some e) : Dealing.mode h ⟨o, silence, none⟩ = .waiting := by
  unfold Occasion.event? at he
  split at he
  · split at he
    · rename_i hdecode
      simp [mode, reason?, Occasion.reply?, Occasion.verdict?, hdecode]
    · cases he
  · cases he

/-- **Writing** ends a dealing that waited for it. -/
theorem Drive.written_eq {h : Heartbeat} {d : Drive} {t : Dealing} {f : Frame} {next : After}
    (ok : Bool) (hd : d.mode = t.mode h) (hmode : d.mode = .writing f next) :
    (d.written ok).mode = Dealing.mode h { t with written := some ok } ∧
      (d.written ok).lastSeen = d.lastSeen := by
  obtain ⟨hreply, -, hnext⟩ := Dealing.pending_of_mode (hd.symm.trans hmode)
  cases hverdict : t.occasion.verdict? h t.silence with
  | some reason =>
      rw [hverdict] at hnext
      simp [written, hmode, hnext, Drive.stop, Dealing.mode, Dealing.reason?, hreply, hverdict]
  | none =>
      rw [hverdict] at hnext
      cases ok <;>
        simp [written, hmode, hnext, Drive.stop, Dealing.mode, Dealing.reason?, hreply, hverdict]

/-! ## The logbook -/

/-- What reaches the task of an open connection: something wakes it up, at a time, or a frame was
written, or could not be. -/
inductive Signal where
  | woken (now : Nat) (o : Occasion)
  | written (ok : Bool)

/-- When the client was last heard, and what the task has dealt with, in order. -/
structure Logbook where
  heard : Nat
  dealings : List Dealing

namespace Logbook

def note (l : Logbook) : Signal → Logbook
  | .woken now o =>
    ⟨if o.isInbound = true then now else l.heard, l.dealings ++ [⟨o, now - l.heard, none⟩]⟩
  | .written ok =>
    { l with dealings := l.dealings.dropLast ++
        (l.dealings.getLast?.map fun t => { t with written := some ok }).toList }

def mode (h : Heartbeat) (l : Logbook) : Mode :=
  match l.dealings.getLast? with
  | some t => t.mode h
  | none => .waiting

def events (l : Logbook) : List CallKind :=
  (l.dealings.filterMap (·.occasion.event?)).map fun e => .event e.1 e.2

def attempts (h : Heartbeat) (l : Logbook) : List (Writing × Bool) :=
  l.dealings.filterMap (Dealing.attempt? h)

def end? (h : Heartbeat) (l : Logbook) : Option DisconnectReason :=
  l.dealings.getLast?.bind (Dealing.end? h)

variable {h : Heartbeat} {l : Logbook} {now : Nat} {o : Occasion} {ok : Bool}
  {reason : DisconnectReason} {f : Frame} {next : After}

theorem mode_eq_over_iff : l.mode h = .over reason ↔ l.end? h = some reason := by
  unfold mode end?
  cases l.dealings.getLast? with
  | none => simp
  | some t => exact Dealing.mode_eq_over_iff

theorem end?_eq_none (hl : ∀ reason, l.mode h ≠ .over reason) : l.end? h = none := by
  cases hend : l.end? h with
  | none => rfl
  | some reason => exact absurd (mode_eq_over_iff.mpr hend) (hl reason)

@[simp] theorem mode_woken : (l.note (.woken now o)).mode h = Dealing.mode h ⟨o, now - l.heard, none⟩ := by
  simp [note, mode]

@[simp] theorem events_woken : (l.note (.woken now o)).events =
    l.events ++ (o.event?.map fun e => CallKind.event e.1 e.2).toList := by
  cases he : o.event? <;> simp [note, events, he]

@[simp] theorem attempts_woken : (l.note (.woken now o)).attempts h = l.attempts h := by
  unfold attempts note
  rw [List.filterMap_append]
  cases hreply : o.reply? h (now - l.heard) <;> simp [Dealing.attempt?, hreply]

/-- While the task waits all its dealings are done, and none of them was the end. -/
theorem forall_waiting (hbefore : ∀ t ∈ l.dealings.dropLast, t.mode h = .waiting)
    (hl : l.mode h = .waiting) : ∀ t ∈ l.dealings, t.mode h = .waiting := by
  intro t ht
  unfold mode at hl
  cases hlast : l.dealings.getLast? with
  | none =>
      rw [List.getLast?_eq_none_iff.mp hlast] at ht
      cases ht
  | some last =>
      rw [hlast] at hl
      rw [← List.dropLast_append_getLast? last hlast, List.mem_append, List.mem_singleton] at ht
      rcases ht with ht | rfl
      · exact hbefore t ht
      · exact hl

/-- A frame is written for the dealing that is not done. -/
theorem exists_pending (hl : l.mode h = .writing f next) : ∃ ts t, l.dealings = ts ++ [t] ∧
    t.mode h = .writing f next ∧
    ∀ ok, l.note (.written ok) = { l with dealings := ts ++ [{ t with written := some ok }] } := by
  unfold mode at hl
  cases hlast : l.dealings.getLast? with
  | none =>
      rw [hlast] at hl
      cases hl
  | some t =>
      rw [hlast] at hl
      have hsplit := List.dropLast_append_getLast? t hlast
      refine ⟨l.dealings.dropLast, t, hsplit.symm, hl, fun ok => ?_⟩
      simp [note, hlast]

end Logbook

namespace Switchboard

variable {α : Type} {b b' b'' : Switchboard} {now i j : Nat} {cue : Cue} {c : Connection}
  {hs : HandlerSet} {d d' : Drive} {deed : Deed} {ds ds' : List Deed} {o : Occasion}
  {l : Logbook} {h : Heartbeat}

/-! ## Along a run -/

def trace (f : Switchboard → Deed → Switchboard → List α) : Switchboard → List Deed → List α
  | _, [] => []
  | b, deed :: ds =>
    match b.perform deed with
    | some b' => f b deed b' ++ trace f b' ds
    | none => []

theorem trace_cons {f : Switchboard → Deed → Switchboard → List α} (h : b.perform deed = some b') :
    trace f b (deed :: ds) = f b deed b' ++ trace f b' ds := by
  simp [trace, h]

theorem trace_append {f : Switchboard → Deed → Switchboard → List α}
    (h : b.performAll ds = some b') : trace f b (ds ++ ds') = trace f b ds ++ trace f b' ds' := by
  induction ds generalizing b with
  | nil =>
      cases h
      rfl
  | cons first ds ih =>
      rw [performAll_cons, Option.bind_eq_some_iff] at h
      obtain ⟨mid, hmid, h⟩ := h
      rw [List.cons_append, trace_cons hmid, trace_cons hmid, ih h, List.append_assoc]

theorem trace_snoc {f : Switchboard → Deed → Switchboard → List α} (h : b.performAll ds = some b')
    (hdeed : b'.perform deed = some b'') :
    trace f b (ds ++ [deed]) = trace f b ds ++ f b' deed b'' := by
  rw [trace_append h, trace_cons hdeed, trace, List.append_nil]

def signal? (b : Switchboard) (i now : Nat) : Cue → Option Signal
  | .inbound f => some (.woken now (.inbound f))
  | .readFailed => some (.woken now .readFailed)
  | .streamEnded => some (.woken now .streamEnded)
  | .tick => some (.woken now .tick)
  | .outbound => do
    let c ← b.connection? i
    let f ← (b.rooms.take c.mailbox).1
    some (.woken now (.outbound f))
  | .wrote => some (.written true)
  | .writeFailed _ => some (.written false)
  | _ => none

def signals (b : Switchboard) (i : Nat) (ds : List Deed) : List Signal :=
  b.trace (fun b deed _ =>
    match deed with
    | .session now j cue => if j = i then (b.signal? i now cue).toList else []
    | _ => []) ds

/-- **The logbook of an open connection** whose client was last heard at some time. -/
def logbook (b : Switchboard) (i start : Nat) (ds : List Deed) : Logbook :=
  (b.signals i ds).foldl Logbook.note ⟨start, []⟩

theorem logbook_snoc_of_other {start : Nat} (h : b.performAll ds = some b')
    (hdeed : b'.perform deed = some b'') (hother : deed.isOf i = false) :
    b.logbook i start (ds ++ [deed]) = b.logbook i start ds := by
  unfold logbook signals
  rw [trace_snoc h hdeed]
  cases deed with
  | session now j cue =>
      have hji : j ≠ i := of_decide_eq_false hother
      simp [hji]
  | _ => simp

theorem logbook_snoc_of_cutOff {start : Nat} {o : Outcome} (h : b.performAll ds = some b')
    (hdeed : b'.perform (.cutOff i o) = some b'') :
    b.logbook i start (ds ++ [.cutOff i o]) = b.logbook i start ds := by
  unfold logbook signals
  rw [trace_snoc h hdeed, List.append_nil]

theorem logbook_snoc_of_signal {start : Nat} {s : Signal} (h : b.performAll ds = some b')
    (hdeed : b'.perform (.session now i cue) = some b'') (hs : b'.signal? i now cue = some s) :
    b.logbook i start (ds ++ [.session now i cue]) = (b.logbook i start ds).note s := by
  unfold logbook signals
  rw [trace_snoc h hdeed]
  simp [hs]

/-- How an open connection goes on by a cue: its frame was written, or could not be; something woke
it up; or it took a frame out of its mailbox. -/
inductive OpenStep (b : Switchboard) (now i : Nat) (c : Connection) (hs : HandlerSet) (d : Drive)
    (cue : Cue) : Switchboard → Prop
  | written {f : Frame} {next : After} {ok : Bool} (mode : d.mode = .writing f next)
      (signal : b.signal? i now cue = some (.written ok))
      (attempt : ∀ b', Footstep.attempt? i ⟨b, cue, b'⟩ = some (.frame f, ok)) :
      OpenStep b now i c hs d cue (b.settle i c hs (d.written ok))
  | woken {o : Occasion} (mode : d.mode = .waiting)
      (signal : b.signal? i now cue = some (.woken now o))
      (attempt : ∀ b', Footstep.attempt? i ⟨b, cue, b'⟩ = none) (own : ∀ f, o ≠ .outbound f) :
      OpenStep b now i c hs d cue (b.wake i now c hs d o)
  | taken {f : Frame} {rooms : Mailroom} (mode : d.mode = .waiting)
      (signal : b.signal? i now cue = some (.woken now (.outbound f)))
      (attempt : ∀ b', Footstep.attempt? i ⟨b, cue, b'⟩ = none)
      (take : b.rooms.take c.mailbox = (some f, rooms)) :
      OpenStep b now i c hs d cue ({ b with rooms := rooms }.wake i now c hs d (.outbound f))

theorem openStep_of_advance (hst : b.stage? i = some (.open c hs d))
    (h : b.advance now i cue = some b') : OpenStep b now i c hs d cue b' := by
  have hpending : ∀ f next, d.mode = .writing f next → b.pending? i = some (.frame f) := by
    intro f next hmode
    obtain ⟨lastSeen, nextTick, mode⟩ := d
    cases hmode
    simp [pending?, hst, Stage.pending?]
  simp only [advance, Option.bind_eq_bind, Option.bind_eq_some_iff] at h
  obtain ⟨_, hst', h⟩ := h
  cases hst.symm.trans hst'
  simp only at h
  split at h
  · rename_i f next hmode
    cases h
    exact .written hmode rfl fun _ => by simp [Footstep.attempt?, hpending f next hmode]
  · rename_i f next _ hmode
    cases h
    exact .written hmode rfl fun _ => by simp [Footstep.attempt?, hpending f next hmode]
  · rename_i hmode
    cases h
    exact .woken hmode rfl (fun _ => rfl) fun _ => Occasion.noConfusion
  · rename_i hmode
    cases h
    exact .woken hmode rfl (fun _ => rfl) fun _ => Occasion.noConfusion
  · rename_i hmode
    cases h
    exact .woken hmode rfl (fun _ => rfl) fun _ => Occasion.noConfusion
  · rename_i hmode
    cases h
    exact .woken hmode rfl (fun _ => rfl) fun _ => Occasion.noConfusion
  · rename_i hmode
    split at h <;> rename_i htake
    · cases h
      refine .taken hmode ?_ (fun _ => rfl) htake
      simp [signal?, connection?_of_stage? hst, Stage.connection?, htake]
    · cases h
  · cases h

/-! ## What the logbook tells -/

/-- Where a session is that was open, as its logbook tells. It is open still; or the connection has
ended, a handler broke down, or somebody cut it off. -/
inductive Stands (i : Nat) (c : Connection) (hs : HandlerSet) (h : Heartbeat) (l : Logbook)
    (ds : List Deed) (b : Switchboard) : Prop
  | still {d : Drive} (stage : b.stage? i = some (.open c hs d)) (heard : d.lastSeen = l.heard)
      (mode : d.mode = l.mode h) (going : ∀ reason, d.mode ≠ .over reason)
  | ended {o : Outcome} (stage : b.stage? i = some (.ended o))
      (cause : (∃ reason, l.end? h = some reason) ∨ ¬hs.IsCalm ∨ ∃ o, .cutOff i o ∈ ds)

/-- **A logbook tells everything** that an open connection has done since: the calls of its handlers,
what was written, and where it is. Only the last dealing may not be done, or be the end. -/
structure Tells (b₀ : Switchboard) (i : Nat) (c : Connection) (hs : HandlerSet) (l : Logbook)
    (ds : List Deed) (b : Switchboard) : Prop where
  heartbeat : b.heartbeat = b₀.heartbeat
  calls : b.callsOf i = b₀.callsOf i ++ l.events ++
    ((l.end? b₀.heartbeat).map CallKind.disconnect).toList
  attempts : attempts i (b₀.footsteps i ds) = l.attempts b₀.heartbeat
  before : ∀ t ∈ l.dealings.dropLast, t.mode b₀.heartbeat = .waiting
  stands : Stands i c hs b₀.heartbeat l ds b

/-- A connection settles into what the logbook says. -/
theorem settle_stands {b₁ : Switchboard} {ks : List CallKind} {st : Stage}
    (hst : b₁.stage? i = some st) (hcalls : b₁.callsOf i = ks) (hheard : d.lastSeen = l.heard)
    (hmode : d.mode = l.mode h) :
    (b₁.settle i c hs d).callsOf i = ks ++ ((l.end? h).map CallKind.disconnect).toList ∧
      Stands i c hs h l ds (b₁.settle i c hs d) := by
  refine settle_cases (P := fun b => b.callsOf i = ks ++ _ ∧ Stands i c hs h l ds b)
    (fun reason hover o _ => ?_) fun hgoing => ?_
  · have hend : l.end? h = some reason := Logbook.mode_eq_over_iff.mp (hmode.symm.trans hover)
    have hsessions : (b₁.call i c hs (.disconnect reason)).1.sessions = b₁.sessions :=
      aside_call.sessions
    have hended : ((b₁.call i c hs (.disconnect reason)).1.exit i c o).stage? i =
        some (.ended o) :=
      stage?_enter_self (b := (b₁.call i c hs (.disconnect reason)).1.leave c)
        ((stage?_congr hsessions).trans hst)
    refine ⟨?_, .ended hended (.inl ⟨reason, hend⟩)⟩
    show (b₁.call i c hs (.disconnect reason)).1.callsOf i = _
    rw [callsOf_call_self, hcalls, hend]
    rfl
  · have hnone : l.end? h = none := Logbook.end?_eq_none (hmode ▸ hgoing)
    refine ⟨?_, .still (stage?_enter_self hst) hheard hmode hgoing⟩
    rw [hnone]
    exact hcalls.trans (List.append_nil ks).symm

/-- A connection wakes up into what the logbook says. -/
theorem wake_stands {b₁ : Switchboard} {ks : List CallKind} (hbeat : b₁.heartbeat = h)
    (hst : b₁.stage? i = some (.open c hs d)) (hcalls : b₁.callsOf i = ks)
    (hheard : d.lastSeen = l.heard) (hmode : d.mode = .waiting) :
    (b₁.wake i now c hs d o).callsOf i = ks ++
        (o.event?.map fun e => CallKind.event e.1 e.2).toList ++
        (((l.note (.woken now o)).end? h).map CallKind.disconnect).toList ∧
      Stands i c hs h (l.note (.woken now o)) ds (b₁.wake i now c hs d o) := by
  obtain ⟨hevent, hmode', hheard'⟩ := Drive.wake_eq b₁.heartbeat now o hmode
  rw [hheard] at hmode' hheard'
  have hnoted : (d.wake b₁.heartbeat now o).1.mode = (l.note (.woken now o)).mode h := by
    rw [hmode', Logbook.mode_woken, hbeat]
  have hsame : ∀ k, (b₁.call i c hs k).1.sessions = b₁.sessions := fun _ => aside_call.sessions
  refine wake_cases (P := fun b => b.callsOf i = ks ++ _ ++ _ ∧ Stands i c hs h _ ds b)
    (fun hsilent => ?_) (fun name args hheard _ => ?_) fun name args hheard hbroken => ?_
  · have hnone : o.event? = none := hevent.symm.trans hsilent
    rw [hnone]
    exact settle_stands hst (hcalls.trans (List.append_nil ks).symm) hheard' hnoted
  · have hsome : o.event? = some (name, args) := hevent.symm.trans hheard
    rw [hsome]
    refine settle_stands ((stage?_congr (hsame _)).trans hst) ?_ hheard' hnoted
    rw [callsOf_call_self, hcalls]
    rfl
  · have hsome : o.event? = some (name, args) := hevent.symm.trans hheard
    have hnone : (l.note (.woken now o)).end? h = none := by
      refine Logbook.end?_eq_none fun reason => ?_
      rw [Logbook.mode_woken, Dealing.mode_of_event hsome]
      exact Mode.noConfusion
    have hended : ((b₁.call i c hs (.event name args)).1.exit i c .panicked).stage? i =
        some (.ended .panicked) :=
      stage?_enter_self (b := (b₁.call i c hs (.event name args)).1.leave c)
        ((stage?_congr (hsame _)).trans hst)
    refine ⟨?_, .ended hended (.inr (.inl fun hcalm => ?_))⟩
    · rw [hsome, hnone]
      show (b₁.call i c hs (.event name args)).1.callsOf i = _
      rw [callsOf_call_self, hcalls]
      exact (List.append_nil _).symm
    · rw [call_of_calm hcalm] at hbroken
      cases hbroken

namespace Tells

variable {b₀ : Switchboard}

theorem start (hst : b.stage? i = some (.open c hs d)) (hmode : d.mode = .waiting) :
    b.Tells i c hs ⟨d.lastSeen, []⟩ [] b where
  heartbeat := rfl
  calls := by simp [Logbook.events, Logbook.end?]
  attempts := rfl
  before _ ht := by cases ht
  stands := .still hst rfl hmode fun _ => by simp [hmode]

/-- What is not of the session is not told. -/
theorem other (h : b₀.Tells i c hs l ds b) (hrun : b₀.performAll ds = some b)
    (hdeed : b.perform deed = some b') (hother : deed.isOf i = false) :
    b₀.Tells i c hs l (ds ++ [deed]) b' := by
  have hstage : ∃ st, b.stage? i = some st := by
    cases h.stands with
    | still stage => exact ⟨_, stage⟩
    | ended stage => exact ⟨_, stage⟩
  obtain ⟨st, hst⟩ := hstage
  obtain ⟨⟨-, hbeat⟩, hstage, hcalls⟩ := spared_of_perform hst hdeed hother
  refine ⟨hbeat.trans h.heartbeat, hcalls.trans h.calls, ?_, h.before, ?_⟩
  · rw [footsteps_snoc hrun hdeed, footstep?_of_other hother, Option.toList_none, List.append_nil]
    exact h.attempts
  · cases h.stands with
    | still stage heard mode going => exact .still (hstage.trans stage) heard mode going
    | ended stage cause =>
        refine .ended (hstage.trans stage) (cause.imp_right (.imp_right ?_))
        exact fun ⟨o, ho⟩ => ⟨o, List.mem_append_left _ ho⟩

/-- A session that is cut off is told nothing more. -/
theorem cutOff {o : Outcome} (h : b₀.Tells i c hs l ds b) (hrun : b₀.performAll ds = some b)
    (hdeed : b.cutOff i o = some b') : b₀.Tells i c hs l (ds ++ [.cutOff i o]) b' := by
  have hsteps : b₀.footsteps i (ds ++ [.cutOff i o]) = b₀.footsteps i ds := by
    have hdone : b.perform (.cutOff i o) = some b' := hdeed
    rw [footsteps_snoc hrun hdone]
    exact List.append_nil _
  have hafter : b'.stage? i = some (.ended o) ∧ b'.heartbeat = b.heartbeat ∧
      b'.callsOf i = b.callsOf i := by
    obtain ⟨st, hst, -, ⟨c, -, rfl⟩ | ⟨-, rfl⟩⟩ := cutOff_cases hdeed
    · exact ⟨stage?_enter_self (b := b.leave c) hst, rfl, rfl⟩
    · exact ⟨stage?_enter_self hst, rfl, rfl⟩
  obtain ⟨hended, hbeat, hcalls⟩ := hafter
  refine ⟨hbeat.trans h.heartbeat, hcalls.trans h.calls, hsteps ▸ h.attempts, h.before, ?_⟩
  exact .ended hended (.inr (.inr ⟨o, List.mem_append_right _ (List.mem_singleton_self _)⟩))

/-- Something wakes up a connection that waits. -/
theorem woken (rooms : Mailroom) (h : b₀.Tells i c hs l ds b) (hrun : b₀.performAll ds = some b)
    (hst : b.stage? i = some (.open c hs d)) (hmode : d.mode = .waiting)
    (hattempt : ∀ b', Footstep.attempt? i ⟨b, cue, b'⟩ = none)
    (hdeed : b.perform (.session now i cue) =
      some ({ b with rooms := rooms }.wake i now c hs d o)) :
    b₀.Tells i c hs (l.note (.woken now o)) (ds ++ [.session now i cue])
      ({ b with rooms := rooms }.wake i now c hs d o) := by
  have hstands := h.stands
  cases hstands with
  | ended stage => cases hst.symm.trans stage
  | still stage heard mode going =>
      cases hst.symm.trans stage
      have hnone : l.end? b₀.heartbeat = none := Logbook.end?_eq_none (mode ▸ going)
      have hcalls := h.calls
      rw [hnone] at hcalls
      have hwoken : _ ∧ Stands i c hs b₀.heartbeat (l.note (.woken now o))
          (ds ++ [.session now i cue]) ({ b with rooms := rooms }.wake i now c hs d o) :=
        wake_stands h.heartbeat hst (hcalls.trans (List.append_nil _)) heard hmode
      obtain ⟨hcalls', hstands'⟩ := hwoken
      refine ⟨(fixed_of_advance hdeed).heartbeat.trans h.heartbeat, ?_, ?_, ?_, hstands'⟩
      · rw [hcalls', Logbook.events_woken, ← List.append_assoc]
      · rw [footsteps_snoc hrun hdeed, footstep?, if_pos rfl, Logbook.attempts_woken, ← h.attempts]
        exact (attempts_snoc.trans (by rw [hattempt]; rfl)).trans (List.append_nil _)
      · intro t ht
        have hall := Logbook.forall_waiting h.before (mode.symm.trans hmode)
        simp only [Logbook.note, List.dropLast_concat] at ht
        exact hall t ht

/-- The frame of a connection was written, or could not be. -/
theorem written {f : Frame} {next : After} {ok : Bool} (h : b₀.Tells i c hs l ds b)
    (hrun : b₀.performAll ds = some b) (hst : b.stage? i = some (.open c hs d))
    (hmode : d.mode = .writing f next)
    (hattempt : ∀ b', Footstep.attempt? i ⟨b, cue, b'⟩ = some (.frame f, ok))
    (hdeed : b.perform (.session now i cue) = some (b.settle i c hs (d.written ok))) :
    b₀.Tells i c hs (l.note (.written ok)) (ds ++ [.session now i cue])
      (b.settle i c hs (d.written ok)) := by
  have hstands := h.stands
  cases hstands with
  | ended stage => cases hst.symm.trans stage
  | still stage heard mode going =>
      cases hst.symm.trans stage
      obtain ⟨ts, t, hts, ht, hnote⟩ := Logbook.exists_pending (mode.symm.trans hmode)
      obtain ⟨hreply, hunwritten, -⟩ := Dealing.pending_of_mode ht
      obtain ⟨hmode', hheard'⟩ := Drive.written_eq ok (hmode.trans ht.symm) hmode
      have hnone : l.end? b₀.heartbeat = none := Logbook.end?_eq_none (mode ▸ going)
      have hcalls := h.calls
      rw [hnone] at hcalls
      have hlast : (d.written ok).mode = (l.note (.written ok)).mode b₀.heartbeat := by
        rw [hmode', hnote]
        simp [Logbook.mode]
      have hsettled : _ ∧ Stands i c hs b₀.heartbeat (l.note (.written ok))
          (ds ++ [.session now i cue]) (b.settle i c hs (d.written ok)) :=
        settle_stands hst (hcalls.trans (List.append_nil _)) (hheard'.trans heard) hlast
      obtain ⟨hcalls', hstands'⟩ := hsettled
      refine ⟨(fixed_of_advance hdeed).heartbeat.trans h.heartbeat, ?_, ?_, ?_, hstands'⟩
      · have hsame : (l.note (.written ok)).events = l.events := by
          rw [hnote, Logbook.events, Logbook.events, hts, List.filterMap_append,
            List.filterMap_append]
          rfl
        rw [hcalls', hsame]
      · rw [footsteps_snoc hrun hdeed, footstep?, if_pos rfl]
        refine attempts_snoc.trans ?_
        rw [hattempt, h.attempts, hnote]
        simp [Logbook.attempts, hts, Dealing.attempt?, hreply, hunwritten]
      · rw [hnote]
        intro t' ht'
        rw [List.dropLast_concat] at ht'
        refine h.before t' ?_
        rw [hts, List.dropLast_concat]
        exact ht'

/-- **What any deed does is told.** -/
theorem step {start : Nat} (h : b₀.Tells i c hs (b₀.logbook i start ds) ds b)
    (hrun : b₀.performAll ds = some b) (hdeed : b.perform deed = some b') :
    b₀.Tells i c hs (b₀.logbook i start (ds ++ [deed])) (ds ++ [deed]) b' := by
  by_cases hother : deed.isOf i = false
  · rw [logbook_snoc_of_other hrun hdeed hother]
    exact h.other hrun hdeed hother
  · rcases Deed.own_cases hother with ⟨now, cue, rfl⟩ | ⟨o, rfl⟩
    · have hstands := h.stands
      cases hstands with
      | ended stage =>
          -- a session that has ended does not go on
          obtain ⟨st, hst, hlive⟩ := (sessionMove_of_advance hdeed).isLive
          cases stage.symm.trans hst
          cases hlive
      | still stage =>
          cases openStep_of_advance stage hdeed with
          | written mode signal attempt =>
              rw [logbook_snoc_of_signal hrun hdeed signal]
              exact h.written hrun stage mode attempt hdeed
          | woken mode signal attempt =>
              rw [logbook_snoc_of_signal hrun hdeed signal]
              exact h.woken b.rooms hrun stage mode attempt hdeed
          | taken mode signal attempt =>
              rw [logbook_snoc_of_signal hrun hdeed signal]
              exact h.woken _ hrun stage mode attempt hdeed
    · rw [logbook_snoc_of_cutOff hrun hdeed]
      exact h.cutOff hrun hdeed

theorem of_performAll (hst : b.stage? i = some (.open c hs d)) (hmode : d.mode = .waiting)
    (hrun : b.performAll ds = some b') :
    b.Tells i c hs (b.logbook i d.lastSeen ds) ds b' := by
  refine performAll_induction (P := fun ds b' => b.Tells i c hs (b.logbook i d.lastSeen ds) ds b')
    hrun (start hst hmode) fun ds mid deed b' hmid htells hdeed => ?_
  exact htells.step hmid hdeed

end Tells

/-! ## The main result -/

/-- **A session with an open connection can be told** of whatever may come next: while it waits, of
anything but a frame out of an empty mailbox; and while it writes, of how that went. -/
theorem isSome_advance_open (hst : b.stage? i = some (.open c hs d)) (now : Nat) :
    (d.mode = .waiting →
      (∀ f, (b.advance now i (.inbound f)).isSome = true) ∧
      (b.advance now i .readFailed).isSome = true ∧
      (b.advance now i .streamEnded).isSome = true ∧ (b.advance now i .tick).isSome = true ∧
      ((b.advance now i .outbound).isSome = true ↔ b.rooms.frames c.mailbox ≠ [])) ∧
    ∀ f next, d.mode = .writing f next → (b.advance now i .wrote).isSome = true ∧
      ∀ e, (b.advance now i (.writeFailed e)).isSome = true := by
  refine ⟨fun hmode => ?_, fun f next hmode => ?_⟩
  · refine ⟨fun f => ?_, ?_, ?_, ?_, ?_⟩
    iterate 4 simp [advance, hst, hmode]
    unfold advance Mailroom.take
    cases hframes : b.rooms.frames c.mailbox <;> simp [hst, hmode, hframes]
  · simp [advance, hst, hmode]

/-- **An open connection deals with everything as the tables say**, from any state in which it waits,
whatever comes, whatever can be written, and whatever others do in between.

* The tables answer a text that is no message, and bytes, with one frame each, which the client reads
  as an error.
* Its handlers are called for the events among the occasions, one by one in their order, and then once
  for the reason that the last dealing gives, if that is the end.
* It writes the frame of each dealing, once, in their order, and nothing else.
* All dealings before the last one are done and none of them is the end: so nothing is dealt with after
  one that ends the connection.
* After the end the session has ended; before it, the connection is open, unless a handler broke down
  or somebody cut it off, and waits unless the last frame is still to be written.
* While it is open it can be told of whatever may come next. -/
theorem deals_by_the_tables (hst : b.stage? i = some (.open c hs d)) (hmode : d.mode = .waiting)
    (hrun : b.performAll ds = some b') :
    (∀ silence s e, ClientMessage.decode s = .error e →
      ∃ f, (Occasion.inbound (.text s)).reply? b.heartbeat silence = some f ∧
        f.Conveys (.error ("invalid message: " ++ e.message))) ∧
    (∀ silence bytes, ∃ f,
      (Occasion.inbound (.binary bytes)).reply? b.heartbeat silence = some f ∧
        f.Conveys (.error "binary frames are not supported")) ∧
    ∃ ts, (b.logbook i d.lastSeen ds).dealings = ts ∧
      b'.callsOf i = b.callsOf i ++
        ((ts.filterMap (·.occasion.event?)).map fun e => CallKind.event e.1 e.2) ++
        ((ts.getLast?.bind (Dealing.end? b.heartbeat)).map CallKind.disconnect).toList ∧
      attempts i (b.footsteps i ds) = ts.filterMap (Dealing.attempt? b.heartbeat) ∧
      (∀ t ∈ ts.dropLast, t.isDone b.heartbeat = true ∧ t.reason? b.heartbeat = none) ∧
      (∀ reason, ts.getLast?.bind (Dealing.end? b.heartbeat) = some reason →
        ∃ o, b'.stage? i = some (.ended o)) ∧
      (ts.getLast?.bind (Dealing.end? b.heartbeat) = none → hs.IsCalm → (∀ o, .cutOff i o ∉ ds) →
        ∃ d', b'.stage? i = some (.open c hs d') ∧
          (d'.mode = .waiting ↔ ∀ t ∈ ts.getLast?, t.isDone b.heartbeat = true)) ∧
      ∀ d', b'.stage? i = some (.open c hs d') → ∀ now,
        (d'.mode = .waiting →
          (∀ f, (b'.advance now i (.inbound f)).isSome = true) ∧
          (b'.advance now i .readFailed).isSome = true ∧
          (b'.advance now i .streamEnded).isSome = true ∧
          (b'.advance now i .tick).isSome = true ∧
          ((b'.advance now i .outbound).isSome = true ↔ b'.rooms.frames c.mailbox ≠ [])) ∧
        ∀ f next, d'.mode = .writing f next → (b'.advance now i .wrote).isSome = true ∧
          ∀ e, (b'.advance now i (.writeFailed e)).isSome = true := by
  have htells := Tells.of_performAll hst hmode hrun
  refine ⟨fun silence _ _ hdecode => Occasion.reply?_of_invalid _ silence hdecode,
    fun silence bytes => Occasion.reply?_of_binary _ silence bytes, _, rfl, htells.calls,
    htells.attempts, fun t ht => ?_, fun reason hend => ?_, fun hnone hcalm hfree => ?_,
    fun d' hst' now => isSome_advance_open hst' now⟩
  · exact Dealing.mode_eq_waiting_iff.mp (htells.before t ht)
  · cases htells.stands with
    | ended stage => exact ⟨_, stage⟩
    | still _ _ mode going =>
        exact absurd (mode.trans (Logbook.mode_eq_over_iff.mpr hend)) (going reason)
  · cases htells.stands with
    | ended _ cause =>
        rcases cause with ⟨reason, hend⟩ | hbroken | ⟨o, ho⟩
        · cases hnone.symm.trans hend
        · exact absurd hcalm hbroken
        · exact absurd ho (hfree o)
    | @still d' stage _ mode _ =>
        refine ⟨d', stage, ?_⟩
        rw [mode, Logbook.mode]
        cases hlast : (b.logbook i d.lastSeen ds).dealings.getLast? with
        | none => simp
        | some t =>
            rw [hlast] at hnone
            simpa using Dealing.isDone_of_end? hnone

/-- A client sends an event and then bytes, while another client is heard; and then nothing more, for
longer than it may. It cannot be told why the connection ends. -/
def fallingSilent : List Deed :=
  [.session 1 0 (.inbound (.text restartText)), .session 2 1 (.inbound (.ping [])),
    .session 3 0 (.inbound (.binary [])), .session 3 0 .wrote, .session 50000 0 .tick,
    .session 50000 0 (.writeFailed .wrongMethod)]

/-- The bytes are answered with an error; the reason is the silence, not that it could not be told. -/
theorem deals_by_the_tables_silence :
    ∃ b b' args f, (fresh (.shared ["/a", "/b"] (.standard "restart")) ⟨25000, 20000⟩ 4).performAll
        gathering = some b ∧ b.performAll fallingSilent = some b' ∧
      b'.callsOf 0 = b.callsOf 0 ++ [.event "restart" args, .disconnect .pingTimeout] ∧
      attempts 0 (b.footsteps 0 fallingSilent) =
        [(.frame f, true), (.frame Drive.timeoutFrame, false)] ∧
      f.Conveys (.error "binary frames are not supported") ∧
      ∃ o, b'.stage? 0 = some (.ended o) := by
  have hmain : ∃ b c hs d, (fresh (.shared ["/a", "/b"] (.standard "restart"))
        ⟨25000, 20000⟩ 4).performAll gathering = some b ∧ b.stage? 0 = some (.open c hs d) ∧
      d.mode = .waiting ∧ b.heartbeat = ⟨25000, 20000⟩ ∧
      (b.performAll fallingSilent).isSome = true ∧
      (b.logbook 0 d.lastSeen fallingSilent).dealings =
        [⟨.inbound (.text restartText), 1, none⟩, ⟨.inbound (.binary []), 2, some true⟩,
          ⟨.tick, 49997, some false⟩] :=
    ⟨_, _, _, _, rfl, rfl, rfl, rfl, by decide +kernel, by decide +kernel⟩
  obtain ⟨b, c, hs, d, hgathered, hst, hmode, hbeat, hsome, hdealings⟩ := hmain
  obtain ⟨b', hrun⟩ := Option.isSome_iff_exists.mp hsome
  obtain ⟨-, hbinary, ts, hts, hcalls, hattempts, -, hended, -⟩ :=
    deals_by_the_tables hst hmode hrun
  have hdecode : ∃ args, ClientMessage.decode restartText = .ok (.event "restart" args) := by
    have htrigger : (Frame.text restartText).isTrigger "restart" = true := by decide
    obtain ⟨_, args, ⟨⟩, hdecode⟩ := Frame.isTrigger_iff.mp htrigger
    exact ⟨args, hdecode⟩
  obtain ⟨args, hdecode⟩ := hdecode
  rw [hdealings] at hts
  subst hts
  rw [hbeat] at hcalls hattempts hended
  obtain ⟨f, hf, hconveys⟩ := hbinary 2 []
  refine ⟨b, b', args, f, hgathered, hrun, ?_, ?_, hconveys, hended .pingTimeout rfl⟩
  · rw [hcalls, List.append_assoc]
    simp only [List.filterMap_cons, Occasion.event?, hdecode]
    rfl
  · have hnone : Dealing.attempt? ⟨25000, 20000⟩ ⟨.inbound (.text restartText), 1, none⟩ = none := by
      simp [Dealing.attempt?]
    have hanswer : Dealing.attempt? ⟨25000, 20000⟩ ⟨.inbound (.binary []), 2, some true⟩ =
        some (.frame f, true) := by
      simp [Dealing.attempt?, hbeat ▸ hf]
    rw [hattempts, List.filterMap_cons_none hnone, List.filterMap_cons_some hanswer]
    rfl

end Switchboard

end SocketGateway
