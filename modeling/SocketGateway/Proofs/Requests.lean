import SocketGateway.Proofs.Moves

/-!
# Requests for a restart

Whatever happens to a switchboard, short of a transition, its coordinator is only asked for
restarts, any number of times, and each answer is recorded. So what a request keeps is kept by every
session and everybody else, whenever they ask.
-/

namespace SocketGateway

open SocketGateway.Restart (Coordinator Phase)

namespace Switchboard

variable {b b' b'' : Switchboard} {now i : Nat} {cue : Cue} {c : Connection} {hs : HandlerSet}
  {k : CallKind} {s : Socket} {rs : List Reaction} {o : Outcome} {d : Drive}

/-- The coordinator was asked for restarts, any number of times, and nothing else was done to it. -/
inductive Asked (b : Switchboard) : Switchboard → Prop
  | same {b' : Switchboard} (coordinator : b'.coordinator = b.coordinator)
      (answers : b'.answers = b.answers) : Asked b b'
  | again {b' b'' : Switchboard} (h : Asked b b')
      (coordinator : b''.coordinator = b'.coordinator.request.2)
      (answers : b''.answers = b'.coordinator.request.1 :: b'.answers) : Asked b b''

namespace Asked

theorem trans (h : b.Asked b') (h' : b'.Asked b'') : b.Asked b'' := by
  induction h' with
  | same hc ha =>
      cases h with
      | same hc' ha' => exact .same (hc.trans hc') (ha.trans ha')
      | again h hc' ha' => exact .again h (hc.trans hc') (ha.trans ha')
  | again _ hc ha ih => exact .again ih hc ha

/-- **What a request keeps is kept.** -/
theorem keeps {P : Coordinator → List Bool → Prop} (h : b.Asked b')
    (hrequest : ∀ c as, P c as → P c.request.2 (c.request.1 :: as))
    (hb : P b.coordinator b.answers) : P b'.coordinator b'.answers := by
  induction h with
  | same hc ha =>
      rw [hc, ha]
      exact hb
  | again _ hc ha ih =>
      rw [hc, ha]
      exact hrequest _ _ ih

theorem request : b.Asked b.request.2 := .again (.same rfl rfl) rfl rfl

theorem emit {name : String} {args : List Json.Value} : b.Asked (b.emit s name args).2 :=
  .same rfl rfl

theorem close {reason : String} : b.Asked (b.close s reason).2 := .same rfl rfl

theorem react : b.Asked (b.react s rs).1 := by
  induction rs generalizing b with
  | nil => exact .same rfl rfl
  | cons r rs ih =>
      cases r with
      | emit name args => exact emit.trans ih
      | close reason => exact close.trans ih
      | restart => exact request.trans ih
      | panic => exact .same rfl rfl

theorem call : b.Asked (b.call i c hs k).1 := by
  have hnoted : b.Asked (b.note i c k) := .same rfl rfl
  exact hnoted.trans react

theorem exit_after_call : b.Asked ((b.call i c hs k).1.exit i c o) := call.trans (.same rfl rfl)

theorem settle : b.Asked (b.settle i c hs d) :=
  settle_cases (P := b.Asked) (fun _ _ _ _ => exit_after_call) fun _ => .same rfl rfl

theorem wake {occasion : Occasion} : b.Asked (b.wake i now c hs d occasion) :=
  wake_cases (P := b.Asked) (fun _ => settle) (fun _ _ _ _ => call.trans settle)
    fun _ _ _ _ => exit_after_call

theorem sessionMove (h : SessionMove b now i b') : b.Asked b' := by
  cases h with
  | upgrade | ungreeted => exact .same rfl rfl
  | join => exact join_cases (P := b.Asked) (fun _ _ => .same rfl rfl) fun _ _ => .same rfl rfl
  | begin =>
      exact begin_cases (P := b.Asked) (fun _ _ => call.trans (.same rfl rfl))
        fun _ => exit_after_call
  | written => exact settle
  | woken => exact wake
  | @taken _ _ _ _ rooms =>
      have htaken : b.Asked { b with rooms := rooms } := .same rfl rfl
      exact htaken.trans wake

/-- **Every deed but a transition does no more than ask.** -/
theorem perform {deed : Deed} (h : b.perform deed = some b')
    (hdeed : ∀ source target, deed ≠ .transition source target) : b.Asked b' := by
  cases deed with
  | session now i cue => exact sessionMove (sessionMove_of_advance h)
  | cutOff i o =>
      obtain ⟨st, -, -, ⟨c, -, rfl⟩ | ⟨-, rfl⟩⟩ := cutOff_cases h
      · exact .same rfl rfl
      · exact .same rfl rfl
  | request =>
      cases h
      exact request
  | transition source target => exact absurd rfl (hdeed source target)
  | register ns =>
      cases h
      exact registerLoose_cases (P := b.Asked) (fun _ => .same rfl rfl) (.same rfl rfl)
  | _ =>
      cases h
      exact .same rfl rfl

/-- To end everything is to ask for nothing. -/
theorem abortAll : b.Asked b.abortAll := by
  have h : b.Brought (fun d => ∃ i, d = .cutOff i .aborted) b.abortAll := .abortAll fun i => ⟨i, rfl⟩
  refine h.keeps (P := b.Asked) ?_ (.same rfl rfl)
  rintro _ b' b'' ⟨i, rfl⟩ hb' hdeed
  exact hb'.trans (perform hdeed fun _ _ => Deed.noConfusion)

/-! ## Phases -/

/-- Past its first phase a restart is not touched by requests. -/
theorem phase_eq (h : b.Asked b') (hphase : b.coordinator.phase ≠ .idle) :
    b'.coordinator.phase = b.coordinator.phase := by
  refine h.keeps (P := fun c _ => c.phase = b.coordinator.phase) (fun c _ hc => ?_) rfl
  rw [Coordinator.request, if_neg (hc ▸ hphase)]
  exact hc

end Asked

end Switchboard

end SocketGateway
