import SocketGateway.Proofs.Dealings

/-!
# How long a client may be silent

The clock of an open connection ticks once an interval, from the beginning on. At a tick a client that
was silent for longer than an interval and a timeout is given up, and every other one is pinged. So a
client that is heard within a timeout after each ping is never given up, however many ticks a timeout
lasts: among the pings that it must have answered by a tick, the latest is at most an interval and a
timeout old. And a client that falls silent is given up at the first tick at which it may be.
-/

namespace SocketGateway

open SocketGateway.Config (Heartbeat)
open SocketGateway.Wire (Frame)

/-! ## The times of signals -/

namespace Signal

def isTick : Signal → Bool
  | .woken _ .tick => true
  | _ => false

def heardAfter (heard : Nat) : Signal → Nat
  | .woken now (.inbound _) => now
  | _ => heard

end Signal

def lastHeard (start : Nat) (ss : List Signal) : Nat := ss.foldl Signal.heardAfter start

def nextDue (start interval : Nat) (ss : List Signal) : Nat :=
  start + (ss.countP Signal.isTick + 1) * interval

/-- **Something comes in time** after what was before it: time does not go back, a tick comes when it is
due, and nothing comes later than a tick that is due. -/
structure ComesInTime (start interval : Nat) (before : List Signal) (now : Nat) (o : Occasion) :
    Prop where
  since : start ≤ now
  forward : ∀ u o', .woken u o' ∈ before → u ≤ now
  early : now ≤ nextDue start interval before
  beat : o = .tick → now = nextDue start interval before

def InTime (start interval : Nat) (ss : List Signal) : Prop :=
  ∀ before now o after, ss = before ++ .woken now o :: after → ComesInTime start interval before now o

/-- **The client answers**: after every tick it is heard within a timeout, as far as time has gone. -/
def Answers (timeout : Nat) : List Signal → Prop
  | [] => True
  | .woken now .tick :: after =>
    ((∃ u f, .woken u (.inbound f) ∈ after ∧ u ≤ now + timeout) ∨
      ∀ u o, .woken u o ∈ after → u ≤ now + timeout) ∧ Answers timeout after
  | _ :: after => Answers timeout after

section

variable {start interval timeout now u k : Nat} {ss ss' before after : List Signal} {s : Signal}
  {o o' : Occasion} {f : Frame} {ok : Bool}

@[simp] theorem lastHeard_nil : lastHeard start [] = start := rfl

@[simp] theorem lastHeard_snoc : lastHeard start (ss ++ [s]) = s.heardAfter (lastHeard start ss) := by
  simp [lastHeard]

theorem nextDue_snoc : nextDue start interval (ss ++ [s]) =
    nextDue start interval ss + if s.isTick = true then interval else 0 := by
  rw [nextDue, nextDue, List.countP_append, List.countP_singleton]
  split
  · simp only [Nat.succ_mul]
    omega
  · rfl

theorem isTick_of_ne (h : o ≠ .tick) : Signal.isTick (.woken now o) = false := by
  unfold Signal.isTick
  split
  · rename_i heq
    cases heq
    exact absurd rfl h
  · rfl

theorem InTime.of_append (h : InTime start interval (ss ++ ss')) : InTime start interval ss := by
  intro before now o after hsplit
  exact h before now o (after ++ ss') (by simp [hsplit])

theorem InTime.last (h : InTime start interval (ss ++ [.woken now o])) :
    ComesInTime start interval ss now o :=
  h ss now o [] rfl

theorem InTime.nil : InTime start interval [] := by
  intro before now o after hsplit
  simp at hsplit

theorem InTime.le_nextDue (h : InTime start interval ss) (hmem : .woken now o ∈ ss) :
    now ≤ nextDue start interval ss := by
  induction ss using List.reverseRecOn with
  | nil => cases hmem
  | append_singleton ss s ih =>
      rw [nextDue_snoc]
      rcases List.mem_append.mp hmem with hold | hnew
      · exact (ih h.of_append hold).trans (Nat.le_add_right _ _)
      · obtain rfl := List.mem_singleton.mp hnew
        exact h.last.early.trans (Nat.le_add_right _ _)

theorem InTime.snoc (h : InTime start interval ss)
    (hs : ∀ now o, s = .woken now o → ComesInTime start interval ss now o) :
    InTime start interval (ss ++ [s]) := by
  intro before now o after hsplit
  rcases List.eq_nil_or_concat after with rfl | ⟨after, last, rfl⟩
  · obtain ⟨rfl, hlast⟩ := List.append_inj' hsplit rfl
    exact hs now o (List.singleton_inj.mp hlast)
  · have hinit : ss ++ [s] = (before ++ .woken now o :: after) ++ [last] := by simp [hsplit]
    exact h before now o after (List.append_inj' hinit rfl).1

/-- What comes later is not earlier. -/
theorem InTime.le_of_split (h : InTime start interval ss)
    (hsplit : ss = before ++ .woken now o :: after) (hmem : .woken u o' ∈ after) : now ≤ u := by
  obtain ⟨mid, late, rfl⟩ := List.append_of_mem hmem
  have hlater := h (before ++ .woken now o :: mid) u o' late (by simp [hsplit])
  exact hlater.forward now o (by simp)

/-! ## When the client was heard -/

theorem lastHeard_eq_start_or_mem (start : Nat) (ss : List Signal) :
    lastHeard start ss = start ∨ ∃ f, .woken (lastHeard start ss) (.inbound f) ∈ ss := by
  induction ss using List.reverseRecOn with
  | nil => exact .inl rfl
  | append_singleton ss s ih =>
      rw [lastHeard_snoc, Signal.heardAfter.eq_def]
      split
      · rename_i now f
        exact .inr ⟨f, by simp⟩
      · refine ih.imp_right ?_
        rintro ⟨f, hf⟩
        exact ⟨f, List.mem_append_left _ hf⟩

theorem InTime.start_le_lastHeard (h : InTime start interval ss) : start ≤ lastHeard start ss := by
  rcases lastHeard_eq_start_or_mem start ss with heq | ⟨f, hf⟩
  · rw [heq]
  · obtain ⟨before, after, hsplit⟩ := List.append_of_mem hf
    exact (h before _ _ after hsplit).since

theorem InTime.le_lastHeard (h : InTime start interval ss) (hmem : .woken u (.inbound f) ∈ ss) :
    u ≤ lastHeard start ss := by
  induction ss using List.reverseRecOn with
  | nil => cases hmem
  | append_singleton ss s ih =>
      rw [lastHeard_snoc]
      rcases List.mem_append.mp hmem with hold | hnew
      · have hle := ih h.of_append hold
        rw [Signal.heardAfter.eq_def]
        split
        · exact h.last.forward u _ hold
        · exact hle
      · rw [← List.mem_singleton.mp hnew]
        rfl

theorem InTime.lastHeard_mono (h : InTime start interval (ss ++ ss')) :
    lastHeard start ss ≤ lastHeard start (ss ++ ss') := by
  rcases lastHeard_eq_start_or_mem start ss with heq | ⟨f, hf⟩
  · rw [heq]
    exact h.start_le_lastHeard
  · exact h.le_lastHeard (List.mem_append_left _ hf)

/-! ## The ticks by their numbers -/

/-- **The ticks come at the multiples of the interval.** -/
theorem InTime.exists_tick (h : InTime start interval ss) (hk : k < ss.countP Signal.isTick) :
    ∃ before after, ss = before ++ .woken (start + (k + 1) * interval) .tick :: after := by
  induction ss using List.reverseRecOn with
  | nil => simp at hk
  | append_singleton ss s ih =>
      by_cases hold : k < ss.countP Signal.isTick
      · obtain ⟨before, after, hsplit⟩ := ih h.of_append hold
        exact ⟨before, after ++ [s], by simp [hsplit]⟩
      · -- the tick is the last signal
        rw [List.countP_append] at hk
        match s with
        | .woken now .tick =>
            have hnumber : k = ss.countP Signal.isTick := by
              simp [Signal.isTick] at hk
              omega
            have hnow : now = start + (k + 1) * interval := hnumber ▸ h.last.beat rfl
            exact ⟨ss, [], by rw [hnow]⟩
        | .woken _ (.inbound _) | .woken _ .readFailed | .woken _ .streamEnded
        | .woken _ (.outbound _) | .written _ =>
            simp [Signal.isTick] at hk
            omega

/-- **The latest ping that must have been answered** by the tick after `n` others is at most an interval
and a timeout older, if there is one. -/
theorem exists_answered {n : Nat} (hn : timeout < n * interval) :
    ∃ k < n, (k + 1) * interval + timeout < (n + 1) * interval ∧
      (n + 1) * interval ≤ (k + 1) * interval + (interval + timeout) := by
  induction n with
  | zero => omega
  | succ n ih =>
      rcases Nat.lt_or_ge timeout (n * interval) with hlate | hearly
      · -- one tick later it is the next ping
        obtain ⟨k, hk, hdue, hold⟩ := ih hlate
        refine ⟨k + 1, by omega, ?_, ?_⟩
        all_goals
          simp only [Nat.succ_mul] at hdue hold ⊢
          omega
      · refine ⟨0, by omega, ?_, ?_⟩
        all_goals
          simp only [Nat.succ_mul] at hn ⊢
          omega

theorem Answers.tail (h : Answers timeout (s :: after)) : Answers timeout after := by
  cases s with
  | woken now o =>
      cases o with
      | tick => exact h.2
      | _ => exact h
  | written ok => exact h

theorem Answers.of_split (h : Answers timeout ss)
    (hsplit : ss = before ++ .woken now .tick :: after) :
    (∃ u f, .woken u (.inbound f) ∈ after ∧ u ≤ now + timeout) ∨
      ∀ u o, .woken u o ∈ after → u ≤ now + timeout := by
  induction before generalizing ss with
  | nil =>
      subst hsplit
      exact h.1
  | cons s before ih =>
      subst hsplit
      exact ih h.tail rfl

/-- **A client that answers is never silent for longer** than an interval and a timeout at a tick. -/
theorem InTime.silence_le (h : InTime start interval ss) (hanswers : Answers timeout ss)
    (hsplit : ss = before ++ .woken now .tick :: after) :
    now - lastHeard start before ≤ interval + timeout := by
  have hbefore : InTime start interval before := InTime.of_append (hsplit ▸ h)
  have hnow : now = nextDue start interval before := (h before now .tick after hsplit).beat rfl
  have hstart : start ≤ lastHeard start before := hbefore.start_le_lastHeard
  rw [nextDue] at hnow
  rcases Nat.lt_or_ge timeout (before.countP Signal.isTick * interval) with hlate | hearly
  · obtain ⟨k, hk, hdue, hold⟩ := exists_answered hlate
    obtain ⟨first, second, hping⟩ := hbefore.exists_tick hk
    have hwhole : ss = first ++ .woken (start + (k + 1) * interval) .tick ::
        (second ++ .woken now .tick :: after) := by simp [hsplit, hping]
    rcases hanswers.of_split hwhole with ⟨u, f, hmem, hu⟩ | hall
    · rcases List.mem_append.mp hmem with hin | hout
      · -- the answer came before this tick
        have hheard : u ≤ lastHeard start before :=
          hbefore.le_lastHeard (hping ▸ List.mem_append_right _ (List.mem_cons_of_mem _ hin))
        have hping' : start + (k + 1) * interval ≤ u := hbefore.le_of_split hping hin
        omega
      · -- an answer after this tick would be too late
        rcases List.mem_cons.mp hout with heq | hin
        · cases heq
        · have hle : now ≤ u := h.le_of_split hsplit hin
          omega
    · have hle : now ≤ start + (k + 1) * interval + timeout := hall now .tick (by simp)
      omega
  · have hnear : (before.countP Signal.isTick + 1) * interval ≤ interval + timeout := by
      rw [Nat.succ_mul]
      omega
    omega

end

/-! ## What a logbook says about ticks -/

def Logbook.ofSignals (start : Nat) (ss : List Signal) : Logbook := ss.foldl Logbook.note ⟨start, []⟩

namespace Logbook

variable {h : Heartbeat} {start now : Nat} {ss before after : List Signal} {s : Signal}
  {o : Occasion} {ok : Bool} {f : Frame} {next : After}

theorem ofSignals_snoc : ofSignals start (ss ++ [s]) = (ofSignals start ss).note s := by
  simp [ofSignals]

theorem heard_ofSignals : (ofSignals start ss).heard = lastHeard start ss := by
  induction ss using List.reverseRecOn with
  | nil => rfl
  | append_singleton ss s ih =>
      rw [ofSignals_snoc, lastHeard_snoc, ← ih]
      cases s with
      | woken now o => cases o <;> rfl
      | written ok => rfl

theorem getLast?_woken : (ofSignals start (ss ++ [.woken now o])).dealings.getLast? =
    some ⟨o, now - lastHeard start ss, none⟩ := by
  rw [ofSignals_snoc, ← heard_ofSignals]
  exact List.getLast?_concat

theorem getLast?_written :
    (ofSignals start (ss ++ [.written ok])).dealings.getLast? =
      (ofSignals start ss).dealings.getLast?.map fun t => { t with written := some ok } := by
  rw [ofSignals_snoc, note]
  cases hlast : (ofSignals start ss).dealings.getLast? with
  | none => simp [List.getLast?_eq_none_iff.mp hlast]
  | some t => simp

/-- A task that writes was woken up last. -/
theorem exists_woken (hmode : (ofSignals start ss).mode h = .writing f next) :
    ∃ before now o, ss = before ++ [.woken now o] := by
  rcases List.eq_nil_or_concat ss with rfl | ⟨ss, s, rfl⟩
  · cases hmode
  · cases s with
    | woken now o => exact ⟨ss, now, o, by simp⟩
    | written ok =>
        rw [mode, List.concat_eq_append, getLast?_written] at hmode
        cases hlast : (ofSignals start ss).dealings.getLast? with
        | none =>
            rw [hlast] at hmode
            cases hmode
        | some t =>
            rw [hlast] at hmode
            obtain ⟨-, hnone, -⟩ := Dealing.pending_of_mode hmode
            cases hnone

/-- Everything that woke up the task is among its dealings. -/
theorem exists_dealing (start : Nat) (hsplit : ss = before ++ .woken now o :: after) :
    ∃ w, ⟨o, now - lastHeard start before, w⟩ ∈ (ofSignals start ss).dealings := by
  induction ss using List.reverseRecOn generalizing after with
  | nil => simp at hsplit
  | append_singleton ss s ih =>
      rcases List.eq_nil_or_concat after with rfl | ⟨after, last, rfl⟩
      · obtain ⟨rfl, hlast⟩ := List.append_inj' hsplit rfl
        rw [List.singleton_inj.mp hlast]
        exact ⟨none, List.mem_of_getLast? getLast?_woken⟩
      · have hinit : ss ++ [s] = (before ++ .woken now o :: after) ++ [last] := by simp [hsplit]
        obtain ⟨w, hw⟩ := ih (List.append_inj' hinit rfl).1
        rw [ofSignals_snoc]
        cases s with
        | woken u o' => exact ⟨w, List.mem_append_left _ hw⟩
        | written ok =>
            -- only whether the last frame could be written is noted then
            cases hlast : (ofSignals start ss).dealings.getLast? with
            | none =>
                rw [List.getLast?_eq_none_iff.mp hlast] at hw
                cases hw
            | some t =>
                rw [← List.dropLast_append_getLast? t hlast, List.mem_append,
                  List.mem_singleton] at hw
                rcases hw with hold | rfl
                · exact ⟨w, by simp [note, hold]⟩
                · exact ⟨some ok, by simp [note, hlast]⟩

end Logbook

/-- A dealing ends the connection because of silence if it was a tick, the client had been silent for
too long, and it was tried to tell it so. -/
theorem Dealing.end?_eq_pingTimeout_iff {h : Heartbeat} {t : Dealing} :
    t.end? h = some .pingTimeout ↔
      t.occasion = .tick ∧ h.deadline < t.silence ∧ t.written.isSome = true := by
  obtain ⟨o, silence, written⟩ := t
  cases o with
  | inbound f =>
      cases f with
      | text s =>
          cases hdecode : ClientMessage.decode s with
          | ok m =>
              cases m <;> cases written <;>
                simp [end?, isDone, reason?, Occasion.reply?, Occasion.verdict?, hdecode]
          | error e =>
              rcases written with _ | _ | _ <;>
                simp [end?, isDone, reason?, Occasion.reply?, Occasion.verdict?, hdecode]
      | _ =>
          rcases written with _ | _ | _ <;>
            simp [end?, isDone, reason?, Occasion.reply?, Occasion.verdict?]
  | outbound f =>
      cases f <;> rcases written with _ | _ | _ <;>
        simp [end?, isDone, reason?, Occasion.reply?, Occasion.verdict?]
  | tick =>
      by_cases hlate : h.deadline < silence <;> rcases written with _ | _ | _ <;>
        simp [end?, isDone, reason?, Occasion.reply?, Occasion.verdict?, hlate]
  | _ =>
      rcases written with _ | _ | _ <;>
        simp [end?, isDone, reason?, Occasion.reply?, Occasion.verdict?]

namespace Drive

variable {h : Heartbeat} {d : Drive} {now : Nat} {o : Occasion} {ok : Bool}

theorem nextTick_wake : (d.wake h now o).1.nextTick =
    if o = .tick then now + h.interval.toNat else d.nextTick := by
  cases o with
  | inbound f =>
      cases f with
      | text s =>
          simp only [wake, hear]
          split <;> simp [write]
      | _ => simp [wake, hear, write, Drive.stop]
  | outbound f => cases f <;> simp [wake, write]
  | tick =>
      simp only [wake]
      split <;> simp [write]
  | _ => simp [wake, Drive.stop]

theorem nextTick_written : (d.written ok).nextTick = d.nextTick := by
  unfold written
  split
  · split <;> rfl
  · rfl
  · rfl

end Drive

namespace Switchboard

variable {b b' b'' : Switchboard} {now i start interval timeout n : Nat} {cue : Cue}
  {c c' : Connection} {hs hs' : HandlerSet} {d d' : Drive} {deed : Deed} {ds ds' : List Deed}
  {o : Occasion} {f : Frame} {reason : DisconnectReason} {st : Stage} {ss : List Signal} {ok : Bool}

/-! ## The clock of an open connection -/

theorem stage?_settle_open (hst : b.stage? i = some st)
    (h : (b.settle i c hs d).stage? i = some (.open c' hs' d')) : d' = d := by
  revert h
  refine settle_cases (P := fun b => b.stage? i = some (.open c' hs' d') → d' = d)
    (fun reason _ o _ h => ?_) fun _ h => ?_
  · have hended : ((b.call i c hs (.disconnect reason)).1.exit i c o).stage? i =
        some (.ended o) :=
      stage?_enter_self (b := (b.call i c hs (.disconnect reason)).1.leave c)
        ((stage?_congr aside_call.sessions).trans hst)
    cases hended.symm.trans h
  · rw [stage?_enter_self hst] at h
    cases h
    rfl

theorem stage?_wake_open (hst : b.stage? i = some st)
    (h : (b.wake i now c hs d o).stage? i = some (.open c' hs' d')) :
    d' = (d.wake b.heartbeat now o).1 := by
  revert h
  refine wake_cases (P := fun b' => b'.stage? i = some (.open c' hs' d') → d' = _)
    (fun _ h => stage?_settle_open hst h) (fun _ _ _ _ h => ?_) fun name args _ _ h => ?_
  · exact stage?_settle_open ((stage?_congr aside_call.sessions).trans hst) h
  · have hended : ((b.call i c hs (.event name args)).1.exit i c .panicked).stage? i =
        some (.ended .panicked) :=
      stage?_enter_self (b := (b.call i c hs (.event name args)).1.leave c)
        ((stage?_congr aside_call.sessions).trans hst)
    cases hended.symm.trans h

/-- **What a deed is to an open connection**: something that it is not told of, after which it is where
it was or has ended; or a signal by which it goes on. -/
inductive Progress (b : Switchboard) (i : Nat) (c : Connection) (hs : HandlerSet) (start : Nat)
    (ds : List Deed) (b' : Switchboard) (deed : Deed) (b'' : Switchboard) : Prop
  | untold (signals : b.signals i (ds ++ [deed]) = b.signals i ds)
      (stage : b''.stage? i = b'.stage? i ∨ ∃ o, b''.stage? i = some (.ended o))
  | told {d : Drive} {now : Nat} {cue : Cue} {s : Signal}
      (signals : b.signals i (ds ++ [deed]) = b.signals i ds ++ [s])
      (signal : b'.signal? i now cue = some s) (stage : b'.stage? i = some (.open c hs d))
      (mode : d.mode = (b.logbook i start ds).mode b.heartbeat)
      (step : OpenStep b' now i c hs d cue b'')

theorem signals_append (hrun : b.performAll ds = some b') :
    b.signals i (ds ++ ds') = b.signals i ds ++ b'.signals i ds' :=
  trace_append hrun

theorem signals_of_session (h : b.perform (.session now i cue) = some b') :
    b.signals i (.session now i cue :: ds) = (b.signal? i now cue).toList ++ b'.signals i ds := by
  rw [signals, trace_cons h]
  simp [signals]

theorem progress_of_perform (hst : b.stage? i = some (.open c hs d)) (hmode : d.mode = .waiting)
    (hrun : b.performAll ds = some b') (hdeed : b'.perform deed = some b'') :
    b.Progress i c hs d.lastSeen ds b' deed b'' := by
  have hsigns : b.signals i (ds ++ [deed]) = b.signals i ds ++ b'.signals i [deed] :=
    signals_append hrun
  have hstands := (Tells.of_performAll hst hmode hrun).stands
  by_cases hother : deed.isOf i = false
  · have hnone : b'.signals i [deed] = [] := by
      rw [signals, trace_cons hdeed]
      cases deed with
      | session now j cue =>
          have hji : j ≠ i := of_decide_eq_false hother
          simp [hji, trace]
      | _ => rfl
    rw [hnone, List.append_nil] at hsigns
    refine .untold hsigns (.inl ?_)
    cases hstands with
    | still stage => exact (spared_of_perform stage hdeed hother).stage
    | ended stage => exact (spared_of_perform stage hdeed hother).stage
  · rcases Deed.own_cases hother with ⟨now, cue, rfl⟩ | ⟨o, rfl⟩
    · cases hstands with
      | ended stage =>
          -- a session that has ended does not go on
          obtain ⟨st, hst, hlive⟩ := (sessionMove_of_advance hdeed).isLive
          cases stage.symm.trans hst
          cases hlive
      | still stage _ mode =>
          have hstep := openStep_of_advance stage hdeed
          have hsignal : ∃ s, b'.signal? i now cue = some s := by
            cases hstep with
            | written _ signal => exact ⟨_, signal⟩
            | woken _ signal => exact ⟨_, signal⟩
            | taken _ signal => exact ⟨_, signal⟩
          obtain ⟨s, hs⟩ := hsignal
          rw [signals_of_session hdeed, hs] at hsigns
          exact .told hsigns hs stage mode hstep
    · have hnone : b'.signals i [.cutOff i o] = [] := by
        rw [signals, trace_cons hdeed]
        rfl
      rw [hnone, List.append_nil] at hsigns
      have hended : b''.stage? i = some (.ended o) := by
        obtain ⟨st, hst, -, ⟨c, -, rfl⟩ | ⟨-, rfl⟩⟩ := cutOff_cases hdeed
        · exact stage?_enter_self (b := b'.leave c) hst
        · exact stage?_enter_self hst
      exact .untold hsigns (.inr ⟨o, hended⟩)

/-- **The clock of an open connection** is due when the signals say. -/
theorem nextTick_eq (hinterval : b.heartbeat.interval.toNat = interval)
    (hst : b.stage? i = some (.open c hs (.start b.heartbeat start)))
    (hrun : b.performAll ds = some b') (htime : InTime start interval (b.signals i ds))
    (hst' : b'.stage? i = some (.open c' hs' d')) :
    d'.nextTick = nextDue start interval (b.signals i ds) := by
  refine performAll_induction (P := fun ds b' => InTime start interval (b.signals i ds) →
    ∀ c' hs' d', b'.stage? i = some (.open c' hs' d') →
      d'.nextTick = nextDue start interval (b.signals i ds))
    hrun ?_ ?_ htime c' hs' d' hst'
  · intro _ c' hs' d' hst'
    cases hst.symm.trans hst'
    simp [Drive.start, hinterval, signals, trace, nextDue]
  · intro ds mid deed next hmid ih hdeed htime c' hs' d' hst'
    cases progress_of_perform hst rfl hmid hdeed with
    | untold signals stage =>
        rw [signals] at htime ⊢
        rcases stage with hsame | ⟨o, hended⟩
        · exact ih htime c' hs' d' (hsame.symm.trans hst')
        · cases hended.symm.trans hst'
    | @told d now cue s signals signal stage _ step =>
        rw [signals] at htime ⊢
        have hdue := ih htime.of_append c hs d stage
        have hbeat : mid.heartbeat = b.heartbeat := (Tells.of_performAll hst rfl hmid).heartbeat
        rw [nextDue_snoc, ← hdue]
        cases step with
        | written _ signal' =>
            cases signal.symm.trans signal'
            rw [stage?_settle_open stage hst', Drive.nextTick_written]
            rfl
        | @woken o _ signal' =>
            cases signal.symm.trans signal'
            rw [stage?_wake_open stage hst', Drive.nextTick_wake, hbeat, hinterval]
            split
            · rename_i htick
              subst htick
              rw [htime.last.beat rfl, ← hdue]
              rfl
            · rename_i hother
              rw [isTick_of_ne hother]
              rfl
        | @taken f rooms _ signal' _ take =>
            cases signal.symm.trans signal'
            have hopen : { mid with rooms := rooms }.stage? i = some (.open c hs d) := stage
            rw [stage?_wake_open hopen hst', Drive.nextTick_wake]
            rfl

/-! ## Ticks that were survived -/

/-- A connection that waits was not given up at any tick. -/
theorem Tells.silence_le {l : Logbook} {b₀ : Switchboard} (htells : b₀.Tells i c hs l ds b)
    (hlog : l = .ofSignals start ss) (hst : b.stage? i = some (.open c hs d))
    (hmode : d.mode = .waiting) {before after : List Signal}
    (hsplit : ss = before ++ .woken now .tick :: after) :
    now - lastHeard start before ≤ b₀.heartbeat.deadline := by
  have hwaiting : l.mode b₀.heartbeat = .waiting := by
    cases htells.stands with
    | ended stage => cases hst.symm.trans stage
    | still stage _ mode =>
        cases hst.symm.trans stage
        exact mode.symm.trans hmode
  obtain ⟨w, hmem⟩ := Logbook.exists_dealing start hsplit
  rw [← hlog] at hmem
  have hcalm := Dealing.mode_eq_waiting_iff.mp (Logbook.forall_waiting htells.before hwaiting _ hmem)
  by_contra hlate
  have hreason := hcalm.2
  simp [Dealing.reason?, Occasion.verdict?, Nat.lt_of_not_le hlate] at hreason

/-- A connection remembers when its client was last heard. -/
theorem lastSeen_eq (hst : b.stage? i = some (.open c hs d)) (hmode : d.mode = .waiting)
    (hstart : d.lastSeen = start) (hrun : b.performAll ds = some b')
    (hst' : b'.stage? i = some (.open c hs d')) :
    d'.lastSeen = lastHeard start (b.signals i ds) := by
  subst hstart
  cases (Tells.of_performAll hst hmode hrun).stands with
  | ended stage => cases hst'.symm.trans stage
  | still stage heard =>
      cases hst'.symm.trans stage
      exact heard.trans Logbook.heard_ofSignals

/-- **While a connection waits its next tick is not far**: an interval more than the client may be
silent, since it was last heard. -/
theorem nextDue_le (hst : b.stage? i = some (.open c hs d)) (hmode : d.mode = .waiting)
    (hstart : d.lastSeen = start) (hrun : b.performAll ds = some b')
    (htime : InTime start interval (b.signals i ds))
    (hst' : b'.stage? i = some (.open c hs d')) (hmode' : d'.mode = .waiting) :
    nextDue start interval (b.signals i ds) ≤
      lastHeard start (b.signals i ds) + b.heartbeat.deadline + interval := by
  subst hstart
  generalize hss : b.signals i ds = ss at htime
  have hheard := htime.start_le_lastHeard
  rw [nextDue, Nat.succ_mul]
  cases hcount : ss.countP Signal.isTick with
  | zero => omega
  | succ k =>
      obtain ⟨before, after, hsplit⟩ := htime.exists_tick (k := k) (by omega)
      have hsurvived := (Tells.of_performAll hst hmode hrun).silence_le
        (by rw [← hss]; rfl) hst' hmode' hsplit
      have hmono : lastHeard d.lastSeen before ≤ lastHeard d.lastSeen ss := by
        rw [hsplit] at htime ⊢
        exact htime.lastHeard_mono
      omega

/-- **Nothing is dealt with later** than that. -/
theorem le_of_signals (hst : b.stage? i = some (.open c hs d)) (hmode : d.mode = .waiting)
    (hstart : d.lastSeen = start) (hrun : b.performAll ds = some b')
    (htime : InTime start interval (b.signals i ds)) :
    ∀ before now o after, b.signals i ds = before ++ .woken now o :: after →
      now ≤ lastHeard start before + b.heartbeat.deadline + interval := by
  refine performAll_induction (P := fun ds _ => InTime start interval (b.signals i ds) →
    ∀ before now o after, b.signals i ds = before ++ .woken now o :: after →
      now ≤ lastHeard start before + b.heartbeat.deadline + interval) hrun ?_ ?_ htime
  · intro _ before now o after hsplit
    simp [signals, trace] at hsplit
  · intro ds mid deed next hmid ih hdeed htime before now o after hsplit
    cases progress_of_perform hst hmode hmid hdeed with
    | untold signals =>
        rw [signals] at htime hsplit
        exact ih htime before now o after hsplit
    | @told d' _ cue s signals signal stage _ step =>
        rw [signals] at htime hsplit
        rcases List.eq_nil_or_concat after with rfl | ⟨after, last, rfl⟩
        · obtain ⟨rfl, hlast⟩ := List.append_inj' hsplit rfl
          obtain rfl := List.singleton_inj.mp hlast
          -- what wakes up a task finds it waiting
          have hwaiting : d'.mode = .waiting := by
            cases step with
            | written _ signal' => cases signal.symm.trans signal'
            | woken mode => exact mode
            | taken mode => exact mode
          have hdue := nextDue_le hst hmode hstart hmid htime.of_append stage hwaiting
          exact htime.last.early.trans hdue
        · have hinit : b.signals i ds ++ [s] = (before ++ .woken now o :: after) ++ [last] := by
            simp [hsplit]
          exact ih htime.of_append before now o after (List.append_inj' hinit rfl).1

/-! ## Giving up a client -/

/-- A frame is written for what woke up the task just before. -/
theorem exists_woken_of_written (hst : b.stage? i = some (.open c hs d)) (hmode : d.mode = .waiting)
    (hrun : b.performAll ds = some b') : ∀ ss ok, b.signals i ds = ss ++ [.written ok] →
      ∃ before now o, ss = before ++ [.woken now o] := by
  refine performAll_induction (P := fun ds _ => ∀ ss ok, b.signals i ds = ss ++ [.written ok] →
    ∃ before now o, ss = before ++ [.woken now o]) hrun ?_ ?_
  · intro ss ok hsplit
    simp [signals, trace] at hsplit
  · intro ds mid deed next hmid ih hdeed ss ok hsplit
    cases progress_of_perform hst hmode hmid hdeed with
    | untold signals =>
        rw [signals] at hsplit
        exact ih ss ok hsplit
    | told signals signal _ mode step =>
        rw [signals] at hsplit
        obtain ⟨rfl, hlast⟩ := List.append_inj' hsplit rfl
        obtain rfl := List.singleton_inj.mp hlast
        cases step with
        | written mode' => exact Logbook.exists_woken (mode.symm.trans mode')
        | woken _ signal' => cases signal.symm.trans signal'
        | taken _ signal' => cases signal.symm.trans signal'

/-- **A client is given up for its silence** if the last thing is that this was told, or could not be,
at a tick at which it had been silent for too long. -/
theorem end?_eq_pingTimeout_iff (start : Nat) (hst : b.stage? i = some (.open c hs d))
    (hmode : d.mode = .waiting) (hrun : b.performAll ds = some b') :
    (b.logbook i start ds).end? b.heartbeat = some .pingTimeout ↔
      ∃ before now ok, b.signals i ds = before ++ [.woken now .tick, .written ok] ∧
        b.heartbeat.deadline < now - lastHeard start before := by
  have hlog : b.logbook i start ds = .ofSignals start (b.signals i ds) := rfl
  rw [hlog]
  have hwritten := exists_woken_of_written hst hmode hrun
  generalize b.signals i ds = ss at hwritten ⊢
  rcases List.eq_nil_or_concat ss with rfl | ⟨ss, s, rfl⟩
  · simp [Logbook.ofSignals, Logbook.end?]
  · rw [List.concat_eq_append] at hwritten ⊢
    cases s with
    | woken now o =>
        rw [Logbook.end?, Logbook.getLast?_woken, Option.bind_some,
          Dealing.end?_eq_pingTimeout_iff]
        constructor
        · rintro ⟨-, -, hnone⟩
          cases hnone
        · rintro ⟨before, now', ok, hsplit, -⟩
          have hlast := congrArg List.getLast? hsplit
          simp at hlast
    | written ok =>
        obtain ⟨before, now, o, rfl⟩ := hwritten ss ok rfl
        rw [Logbook.end?, Logbook.getLast?_written, Logbook.getLast?_woken, Option.map_some,
          Option.bind_some, Dealing.end?_eq_pingTimeout_iff]
        constructor
        · rintro ⟨rfl, hlate, -⟩
          exact ⟨before, now, ok, by simp, hlate⟩
        · rintro ⟨before', now', ok', hsplit, hlate⟩
          have hsame : before ++ [.woken now o, .written ok] =
              before' ++ [.woken now' .tick, .written ok'] := by simpa using hsplit
          obtain ⟨rfl, htail⟩ := List.append_inj' hsame rfl
          cases htail
          exact ⟨rfl, hlate, rfl⟩

/-! ## Falling silent -/

/-- Nothing but the ticks of a connection, of which `n` pass before the last one; what is written at
them can be written. -/
def quiet (i interval : Nat) : Nat → Nat → List Deed
  | 0, now => [.session now i .tick, .session now i .wrote]
  | n + 1, now =>
    .session now i .tick :: .session now i .wrote :: quiet i interval n (now + interval)

def quietSignals (interval : Nat) : Nat → Nat → List Signal
  | 0, now => [.woken now .tick, .written true]
  | n + 1, now => .woken now .tick :: .written true :: quietSignals interval n (now + interval)

/-- A connection that waits takes a tick at any time, and pings its client or gives it up. -/
theorem advance_tick (now : Nat) (hst : b.stage? i = some (.open c hs d))
    (hmode : d.mode = .waiting) : ∃ b' d', b.advance now i .tick = some b' ∧
      b'.stage? i = some (.open c hs d') ∧ d'.lastSeen = d.lastSeen ∧
      (d'.mode = if b.heartbeat.deadline < now - d.lastSeen then
        .writing Drive.timeoutFrame (.finish .pingTimeout) else .writing (.ping []) .resume) ∧
      b'.heartbeat = b.heartbeat ∧ b'.callsOf i = b.callsOf i := by
  have hwake : b.advance now i .tick = some (b.wake i now c hs d .tick) := by
    simp [advance, hst, hmode]
  have henter : b.wake i now c hs d .tick =
      b.enter i (.open c hs (d.wake b.heartbeat now .tick).1) := by
    by_cases hlate : b.heartbeat.deadline < now - d.lastSeen <;>
      simp [wake, Drive.wake, Drive.isOverdue, hlate, settle, Drive.write]
  refine ⟨_, _, hwake.trans (congrArg some henter), stage?_enter_self hst, ?_, ?_, rfl, rfl⟩
  · by_cases hlate : b.heartbeat.deadline < now - d.lastSeen <;>
      simp [Drive.wake, Drive.isOverdue, hlate, Drive.write]
  · by_cases hlate : b.heartbeat.deadline < now - d.lastSeen <;>
      simp [Drive.wake, Drive.isOverdue, hlate, Drive.write]

theorem advance_wrote_resume (now : Nat) (hst : b.stage? i = some (.open c hs d))
    (hmode : d.mode = .writing f .resume) : ∃ b' d', b.advance now i .wrote = some b' ∧
      b'.stage? i = some (.open c hs d') ∧ d'.lastSeen = d.lastSeen ∧ d'.mode = .waiting ∧
      b'.heartbeat = b.heartbeat ∧ b'.callsOf i = b.callsOf i := by
  have hadvance : b.advance now i .wrote =
      some (b.enter i (.open c hs { d with mode := .waiting })) := by
    simp [advance, hst, hmode, Drive.written, settle]
  exact ⟨_, _, hadvance, stage?_enter_self hst, rfl, rfl, rfl, rfl⟩

theorem advance_wrote_finish (now : Nat) (hst : b.stage? i = some (.open c hs d))
    (hmode : d.mode = .writing f (.finish reason)) : ∃ b', b.advance now i .wrote = some b' ∧
      b'.callsOf i = b.callsOf i ++ [.disconnect reason] ∧ ∃ o, b'.stage? i = some (.ended o) := by
  have hadvance : b.advance now i .wrote = some (b.settle i c hs (d.written true)) := by
    simp [advance, hst, hmode]
  have hover : (d.written true).mode = .over reason := by
    simp [Drive.written, hmode, Drive.stop]
  refine ⟨_, hadvance, ?_⟩
  refine settle_cases (P := fun b' => b'.callsOf i = b.callsOf i ++ [.disconnect reason] ∧
    ∃ o, b'.stage? i = some (.ended o)) (fun reason' hreason o _ => ?_) fun hgoing => ?_
  · cases hover.symm.trans hreason
    refine ⟨callsOf_call_self, o, ?_⟩
    exact stage?_enter_self (b := (b.call i c hs (.disconnect reason)).1.leave c)
      ((stage?_congr aside_call.sessions).trans hst)
  · exact absurd hover (hgoing reason)

/-- **A client that says nothing is given up at the first tick at which it may be**, and pinged at those
before. -/
theorem performAll_quiet (hst : b.stage? i = some (.open c hs d)) (hmode : d.mode = .waiting)
    (hbefore : ∀ k < n, now + k * interval - d.lastSeen ≤ b.heartbeat.deadline)
    (hlate : b.heartbeat.deadline < now + n * interval - d.lastSeen) :
    ∃ b', b.performAll (quiet i interval n now) = some b' ∧
      b'.callsOf i = b.callsOf i ++ [.disconnect .pingTimeout] ∧
      (∃ o, b'.stage? i = some (.ended o)) ∧
      b.signals i (quiet i interval n now) = quietSignals interval n now := by
  induction n generalizing b d now with
  | zero =>
      obtain ⟨b₁, d₁, hfirst, hst₁, -, hmode₁, -, hcalls₁⟩ := advance_tick now hst hmode
      rw [if_pos (by simpa using hlate)] at hmode₁
      obtain ⟨b', hsecond, hcalls, hended⟩ := advance_wrote_finish now hst₁ hmode₁
      have htick : b.perform (.session now i .tick) = some b₁ := hfirst
      have hwrote : b₁.perform (.session now i .wrote) = some b' := hsecond
      refine ⟨b', ?_, hcalls.trans (by rw [hcalls₁]), hended, ?_⟩
      · simp only [quiet, performAll_cons, htick, Option.bind_some, hwrote]
        rfl
      · rw [quiet, signals_of_session htick, signals_of_session hwrote]
        rfl
  | succ n ih =>
      obtain ⟨b₁, d₁, hfirst, hst₁, hseen₁, hmode₁, hbeat₁, hcalls₁⟩ := advance_tick now hst hmode
      have hearly := hbefore 0 (Nat.succ_pos n)
      rw [Nat.zero_mul, Nat.add_zero] at hearly
      rw [if_neg (Nat.not_lt.mpr hearly)] at hmode₁
      obtain ⟨b₂, d₂, hsecond, hst₂, hseen₂, hmode₂, hbeat₂, hcalls₂⟩ :=
        advance_wrote_resume now hst₁ hmode₁
      have hbeat : b₂.heartbeat = b.heartbeat := hbeat₂.trans hbeat₁
      have hshift : ∀ k, now + interval + k * interval = now + (k + 1) * interval := by
        intro k
        rw [Nat.succ_mul]
        omega
      rw [← hseen₁, ← hseen₂, ← hbeat] at hbefore hlate
      obtain ⟨b', hrun, hcalls, hended, hsignals⟩ := ih hst₂ hmode₂
        (fun k hk => by rw [hshift]; exact hbefore (k + 1) (Nat.succ_lt_succ hk))
        (by rw [hshift]; exact hlate)
      have htick : b.perform (.session now i .tick) = some b₁ := hfirst
      have hwrote : b₁.perform (.session now i .wrote) = some b₂ := hsecond
      refine ⟨b', ?_, hcalls.trans (by rw [hcalls₂, hcalls₁]), hended, ?_⟩
      · simp only [quiet, performAll_cons, htick, Option.bind_some, hwrote]
        exact hrun
      · rw [quiet, signals_of_session htick, signals_of_session hwrote, hsignals]
        rfl

theorem inTime_quiet (htime : InTime start interval ss) :
    InTime start interval (ss ++ quietSignals interval n (nextDue start interval ss)) := by
  have hround : ∀ {ss}, InTime start interval ss →
      InTime start interval (ss ++ [.woken (nextDue start interval ss) .tick] ++ [.written true]) := by
    intro ss htime
    refine (htime.snoc fun now o hs => ?_).snoc fun now o hs => by cases hs
    cases hs
    exact ⟨Nat.le_add_right _ _, fun _ _ hmem => htime.le_nextDue hmem, Nat.le_refl _, fun _ => rfl⟩
  induction n generalizing ss with
  | zero =>
      rw [quietSignals, ← List.singleton_append, ← List.append_assoc]
      exact hround htime
  | succ n ih =>
      have hnext : nextDue start interval
          (ss ++ [.woken (nextDue start interval ss) .tick] ++ [.written true]) =
            nextDue start interval ss + interval := by
        rw [nextDue_snoc, nextDue_snoc]
        rfl
      have hrest := ih (hround htime)
      rw [hnext] at hrest
      simpa [quietSignals] using hrest

/-- The first of equally spaced times that is later than a given one. -/
theorem exists_first_later (hpos : 0 < interval) (due latest : Nat) :
    ∃ n, (∀ k < n, due + k * interval ≤ latest) ∧ latest < due + n * interval := by
  rcases Nat.lt_or_ge latest due with hlate | hearly
  · exact ⟨0, fun k hk => absurd hk (Nat.not_lt_zero k), by omega⟩
  · refine ⟨(latest - due) / interval + 1, fun k hk => ?_, ?_⟩
    · have hfits := (Nat.le_div_iff_mul_le hpos).mp (Nat.le_of_lt_succ hk)
      omega
    · have hnext := Nat.lt_mul_div_succ (latest - due) hpos
      rw [Nat.mul_comm] at hnext
      omega

/-- A client that says nothing any more, while the next tick is not far, is given up at the first tick
at which it may be. -/
theorem falls_silent (hpos : 0 < interval) (hst : b.stage? i = some (.open c hs d))
    (hmode : d.mode = .waiting) (hnear : now ≤ d.lastSeen + b.heartbeat.deadline + interval) :
    ∃ n b', b.performAll (quiet i interval n now) = some b' ∧
      b.signals i (quiet i interval n now) = quietSignals interval n now ∧
      (∀ k < n, now + k * interval ≤ d.lastSeen + b.heartbeat.deadline) ∧
      d.lastSeen + b.heartbeat.deadline < now + n * interval ∧
      now + n * interval ≤ d.lastSeen + b.heartbeat.deadline + interval ∧
      b'.callsOf i = b.callsOf i ++ [.disconnect .pingTimeout] ∧
      ∃ o, b'.stage? i = some (.ended o) := by
  obtain ⟨n, hbefore, hlate⟩ := exists_first_later hpos now (d.lastSeen + b.heartbeat.deadline)
  have hpings : ∀ k < n, now + k * interval - d.lastSeen ≤ b.heartbeat.deadline := by
    intro k hk
    have hle := hbefore k hk
    omega
  have hover : b.heartbeat.deadline < now + n * interval - d.lastSeen := by omega
  obtain ⟨b', hquiet, hcalls, hended, hsignals⟩ := performAll_quiet hst hmode hpings hover
  refine ⟨n, b', hquiet, hsignals, hbefore, hlate, ?_, hcalls, hended⟩
  -- the tick before the last one was early enough
  cases n with
  | zero => omega
  | succ n =>
      have hle := hbefore n (Nat.lt_succ_self n)
      rw [Nat.succ_mul]
      omega

/-! ## The main result -/

/-- **Silence decides**, and nothing else about when a client is heard. Take a connection from its
start on, in any run in which its clock ticks in time, whatever else happens.

* The client is given up for its silence if it had been silent for longer than an interval and a
  timeout at a tick, and then only, as soon as it was told or could not be.
* A client that is heard within a timeout after each tick is never given up, nor silent for that long.
* Nothing is dealt with later than two intervals and a timeout after the client was last heard.
* While the connection waits, its clock is due at the next multiple of the interval; whenever the tick
  comes, the client is given up or pinged, as its silence says. If it says nothing any more, it is given
  up at the first tick that is later than an interval and a timeout after it was last heard, which is
  not later than an interval more. -/
theorem silence_decides (hinterval : b.heartbeat.interval.toNat = interval)
    (htimeout : b.heartbeat.timeout.toNat = timeout) (hpos : 0 < interval)
    (hfits : interval + timeout < UInt64.size)
    (hst : b.stage? i = some (.open c hs (.start b.heartbeat start)))
    (hrun : b.performAll ds = some b') (htime : InTime start interval (b.signals i ds)) :
    ∃ ss new, b.signals i ds = ss ∧ b'.callsOf i = b.callsOf i ++ new ∧
      (.disconnect .pingTimeout ∈ new ↔ ∃ before now ok,
        ss = before ++ [.woken now .tick, .written ok] ∧
          interval + timeout < now - lastHeard start before) ∧
      (Answers timeout ss → .disconnect .pingTimeout ∉ new ∧
        ∀ before now after, ss = before ++ .woken now .tick :: after →
          now - lastHeard start before ≤ interval + timeout) ∧
      (∀ before now o after, ss = before ++ .woken now o :: after →
        now ≤ lastHeard start before + 2 * interval + timeout) ∧
      ∀ d', b'.stage? i = some (.open c hs d') → d'.mode = .waiting →
        d'.nextTick = nextDue start interval ss ∧
        (∀ now, ∃ b'' d'', b'.advance now i .tick = some b'' ∧
          b''.stage? i = some (.open c hs d'') ∧
          d''.mode = if interval + timeout < now - lastHeard start ss then
            .writing Drive.timeoutFrame (.finish .pingTimeout) else .writing (.ping []) .resume) ∧
        ∃ n b'', b'.performAll (quiet i interval n d'.nextTick) = some b'' ∧
          InTime start interval (b.signals i (ds ++ quiet i interval n d'.nextTick)) ∧
          (∀ k < n, d'.nextTick + k * interval ≤ lastHeard start ss + interval + timeout) ∧
          lastHeard start ss + interval + timeout < d'.nextTick + n * interval ∧
          d'.nextTick + n * interval ≤ lastHeard start ss + 2 * interval + timeout ∧
          b''.callsOf i = b'.callsOf i ++ [.disconnect .pingTimeout] ∧
          ∃ o, b''.stage? i = some (.ended o) := by
  have hdeadline : b.heartbeat.deadline = interval + timeout := by
    rw [Heartbeat.deadline, hinterval, htimeout]
    omega
  have htells := Tells.of_performAll hst rfl hrun
  have hstart : (Drive.start b.heartbeat start).lastSeen = start := rfl
  have hgiven := end?_eq_pingTimeout_iff start hst rfl hrun
  have hnew : .disconnect .pingTimeout ∈ (b.logbook i start ds).events ++
      (((b.logbook i start ds).end? b.heartbeat).map CallKind.disconnect).toList ↔
      (b.logbook i start ds).end? b.heartbeat = some .pingTimeout := by
    simp [Logbook.events]
  rw [hdeadline] at hgiven
  refine ⟨_, _, rfl, htells.calls.trans (List.append_assoc _ _ _), hnew.trans hgiven, ?_, ?_, ?_⟩
  · intro hanswers
    have hheard : ∀ before now after, b.signals i ds = before ++ .woken now .tick :: after →
        now - lastHeard start before ≤ interval + timeout :=
      fun before now after hsplit => htime.silence_le hanswers hsplit
    refine ⟨fun hmem => ?_, hheard⟩
    obtain ⟨before, now, ok, hsplit, hlate⟩ := (hnew.trans hgiven).mp hmem
    exact absurd hlate (Nat.not_lt.mpr (hheard before now [.written ok] hsplit))
  · intro before now o after hsplit
    have hle := le_of_signals hst rfl hstart hrun htime before now o after hsplit
    rw [hdeadline] at hle
    omega
  · intro d' hst' hmode'
    have hclock := nextTick_eq hinterval hst hrun htime hst'
    have hnear := nextDue_le hst rfl hstart hrun htime hst' hmode'
    have hseen : d'.lastSeen = lastHeard start (b.signals i ds) :=
      lastSeen_eq hst rfl hstart hrun hst'
    have hbeat : b'.heartbeat.deadline = interval + timeout := htells.heartbeat ▸ hdeadline
    refine ⟨hclock, fun now => ?_, ?_⟩
    · obtain ⟨b'', d'', hadvance, hst'', -, hmode'', -⟩ := advance_tick now hst' hmode'
      rw [hbeat, hseen] at hmode''
      exact ⟨b'', d'', hadvance, hst'', hmode''⟩
    · rw [← hclock, hdeadline, ← hseen, ← hbeat] at hnear
      obtain ⟨n, b'', hquiet, hsignals, hbefore, hlate, hsoon, hcalls, hended⟩ :=
        falls_silent hpos hst' hmode' hnear
      rw [hbeat, hseen, ← Nat.add_assoc] at hbefore hlate hsoon
      refine ⟨n, b'', hquiet, ?_, hbefore, hlate, by omega, hcalls, hended⟩
      rw [signals_append hrun, hsignals, hclock]
      exact inTime_quiet htime

/-- A client with a timeout of two intervals answers the first ping at the last moment, and after the
tick that comes then. -/
def lateAnswer : List Deed :=
  [.session 10 0 .tick, .session 10 0 .wrote, .session 20 0 .tick, .session 20 0 .wrote,
    .session 30 0 .tick, .session 30 0 .wrote, .session 30 0 (.inbound (.pong []))]

def lateSignals : List Signal :=
  [.woken 10 .tick, .written true, .woken 20 .tick, .written true, .woken 30 .tick, .written true,
    .woken 30 (.inbound (.pong []))]

theorem inTime_lateSignals : InTime 0 10 lateSignals := by
  have hticks : InTime 0 10 ([] ++ quietSignals 10 2 (nextDue 0 10 [])) := inTime_quiet .nil
  have hbefore : ∀ u o, .woken u o ∈ [] ++ quietSignals 10 2 (nextDue 0 10 []) → u ≤ 30 := by
    intro u o hmem
    simp [quietSignals, nextDue] at hmem
    omega
  refine hticks.snoc fun now o hs => ?_
  cases hs
  exact ⟨by decide, hbefore, by decide, fun h => by cases h⟩

/-- It is not given up; and when it says nothing more, it is, at the latest tick that may be. -/
theorem silence_decides_late_answer :
    ∃ b b' b'', (fresh (.shared ["/a", "/b"] (.standard "restart")) ⟨10, 20⟩ 4).performAll
        gathering = some b ∧ b.performAll lateAnswer = some b' ∧
      InTime 0 10 (b.signals 0 lateAnswer) ∧ Answers 20 (b.signals 0 lateAnswer) ∧
      .disconnect .pingTimeout ∉ b'.callsOf 0 ∧
      b'.performAll (quiet 0 10 3 40) = some b'' ∧
      b''.callsOf 0 = b'.callsOf 0 ++ [.disconnect .pingTimeout] := by
  have hopened : ∃ b b' c hs d', (fresh (.shared ["/a", "/b"] (.standard "restart"))
        ⟨10, 20⟩ 4).performAll gathering = some b ∧ b.performAll lateAnswer = some b' ∧
      b.stage? 0 = some (.open c hs (.start b.heartbeat 0)) ∧ b.heartbeat = ⟨10, 20⟩ ∧
      b.callsOf 0 = [.connect] ∧ b.signals 0 lateAnswer = lateSignals ∧
      b'.stage? 0 = some (.open c hs d') ∧ d'.mode = .waiting ∧ d'.nextTick = 40 :=
    ⟨_, _, _, _, _, rfl, rfl, rfl, rfl, rfl, rfl, rfl, rfl, rfl⟩
  obtain ⟨b, b', c, hs, d', hgathered, hrun, hst, hbeat, hconnect, hsignals, hst', hmode',
    hnext⟩ := hopened
  have htime : InTime 0 10 (b.signals 0 lateAnswer) := hsignals ▸ inTime_lateSignals
  have hanswers : Answers 20 (b.signals 0 lateAnswer) := by
    rw [hsignals]
    refine ⟨.inl ⟨30, .pong [], ?_, ?_⟩, .inl ⟨30, .pong [], ?_, ?_⟩, .inl ⟨30, .pong [], ?_, ?_⟩,
      trivial⟩
    all_goals simp
  have hinterval : b.heartbeat.interval.toNat = 10 := by rw [hbeat]; rfl
  have htimeout : b.heartbeat.timeout.toNat = 20 := by rw [hbeat]; rfl
  obtain ⟨ss, new, hss, hcalls, -, hanswered, -, hfalls⟩ :=
    silence_decides hinterval htimeout (by decide) (by decide) hst hrun htime
  rw [hss] at hanswers
  obtain ⟨-, -, n, b'', hquiet, -, hbefore, hlate, -, hend, -⟩ := hfalls d' hst' hmode'
  have hheard : lastHeard 0 ss = 30 := by
    rw [← hss, hsignals]
    rfl
  rw [hheard, hnext] at hbefore hlate
  have hn : n = 3 := by
    have hle : n ≤ 3 := by
      by_contra hmore
      have := hbefore 3 (Nat.lt_of_not_le hmore)
      omega
    omega
  rw [hnext, hn] at hquiet
  refine ⟨b, b', b'', hgathered, hrun, htime, hss ▸ hanswers, ?_, hquiet, hend⟩
  rw [hcalls, hconnect]
  simpa using (hanswered hanswers).1

end Switchboard

end SocketGateway
