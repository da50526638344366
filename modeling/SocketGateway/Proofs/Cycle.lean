import Mathlib.Logic.Function.Iterate
import SocketGateway.Restart.Coordinator

/-!
# The cycle of a coordinator

Everybody who holds a coordinator may call it at any time: to ask for a restart, or to move from any
phase to any other. They all hold the same one, so that their calls form one sequence. A call
succeeds exactly if the move that it tries is due, and otherwise it changes nothing. So the whole
state is known from the number of calls that succeeded: `nth n` is the state after `n` of them.
-/

namespace SocketGateway.Restart

/-! ## Going round the phases -/

namespace Phase

variable {p : Phase} {n : Nat}

theorem iterate_next_add_four : next^[n + 4] p = next^[n] p := by
  rw [Function.iterate_add_apply]
  show next^[n] p.next.next.next.next = next^[n] p
  rw [next_next_next_next]

/-- Whole rounds do not count. -/
theorem iterate_next_mod (n : Nat) : next^[n % 4] p = next^[n] p := by
  induction n using Nat.strongRecOn with
  | _ n ih =>
      rcases Nat.lt_or_ge n 4 with hlt | hge
      · rw [Nat.mod_eq_of_lt hlt]
      · obtain ⟨k, rfl⟩ := Nat.exists_eq_add_of_le' hge
        rw [iterate_next_add_four, ← ih k (by omega), Nat.add_mod_right]

/-- From rest, any number of moves leads where fewer than four lead exactly if they differ by whole
rounds. -/
theorem iterate_next_idle_eq_iff {k : Nat} (hk : k < 4) :
    next^[n] idle = next^[k] idle ↔ n % 4 = k := by
  have hround : ∀ r < 4, ∀ k < 4, next^[r] idle = next^[k] idle ↔ r = k := by decide
  rw [← iterate_next_mod n]
  exact hround _ (Nat.mod_lt n (by decide)) k hk

end Phase

namespace Coordinator

/-! ## Calls -/

inductive Call where
  | request
  | transition (source target : Phase)
deriving DecidableEq, Repr

def Call.isDue (p : Phase) : Call → Bool
  | .request => p = .idle
  | .transition source target => p = source ∧ source.next = target

def make (c : Coordinator) : Call → Bool × Coordinator
  | .request => c.request
  | .transition source target =>
    ((c.transition source target).1.isOk, (c.transition source target).2)

def after (c : Coordinator) (ks : List Call) : Coordinator := ks.foldl (fun c k => (c.make k).2) c

def entries (kind : Phase → Bool) (c : Coordinator) : List Call → Nat
  | [] => 0
  | k :: ks =>
    entries kind (c.make k).2 ks + if (c.make k).1 && kind (c.make k).2.phase then 1 else 0

def successes (c : Coordinator) (ks : List Call) : Nat := c.entries (fun _ => true) ks

variable {c : Coordinator} {k : Call} {ks ks₁ ks₂ : List Call} {n : Nat}

/-- **A call that is due makes the next move**, and any other none. -/
theorem make_eq (c : Coordinator) (k : Call) :
    c.make k = if k.isDue c.phase then (true, c.enter c.phase.next) else (false, c) := by
  cases k with
  | request =>
      by_cases hidle : c.phase = .idle
      · simp [make, request, Call.isDue, hidle, Phase.next]
      · simp [make, request, Call.isDue, hidle]
  | transition source target =>
      by_cases hdue : c.phase = source ∧ source.next = target
      · obtain ⟨rfl, rfl⟩ := hdue
        simp [make, transition, Call.isDue, Except.isOk, Except.toBool]
      · simp only [make, transition, Call.isDue, hdue]
        rfl

theorem after_cons : c.after (k :: ks) = (c.make k).2.after ks := rfl

theorem after_append : c.after (ks₁ ++ ks₂) = (c.after ks₁).after ks₂ := List.foldl_append

theorem successes_cons :
    c.successes (k :: ks) = (c.make k).2.successes ks + if (c.make k).1 then 1 else 0 := by
  simp [successes, entries]

/-! ## The states -/

def nth (n : Nat) : Coordinator := ⟨Phase.next^[n] .idle, UInt64.ofNat (n / 4), n⟩

/-- Each fourth move completes a restart. -/
theorem enter_nth : (nth n).enter (nth n).phase.next = nth (n + 1) := by
  have hphase : (nth n).phase.next = Phase.next^[n + 1] .idle :=
    (Function.iterate_succ_apply' Phase.next n .idle).symm
  have hidle : Phase.next^[n + 1] .idle = .idle ↔ (n + 1) % 4 = 0 :=
    Phase.iterate_next_idle_eq_iff (k := 0) (by decide)
  rw [hphase]
  unfold enter
  by_cases hround : (n + 1) % 4 = 0
  · have hdiv : (n + 1) / 4 = n / 4 + 1 := by omega
    rw [if_pos (hidle.mpr hround), nth, nth, hdiv, UInt64.ofNat_add]
    rfl
  · have hdiv : (n + 1) / 4 = n / 4 := by omega
    rw [if_neg (hround ∘ hidle.mp), nth, nth, hdiv]

theorem make_nth (n : Nat) (k : Call) :
    (nth n).make k = if k.isDue (nth n).phase then (true, nth (n + 1)) else (false, nth n) := by
  rw [make_eq, enter_nth]

/-- **The state is that of the number of successes.** -/
theorem after_nth (n : Nat) (ks : List Call) :
    (nth n).after ks = nth (n + (nth n).successes ks) := by
  induction ks generalizing n with
  | nil => rfl
  | cons k ks ih =>
      rw [after_cons, successes_cons, make_nth]
      cases k.isDue (nth n).phase with
      | true =>
          show (nth (n + 1)).after ks = nth (n + ((nth (n + 1)).successes ks + 1))
          rw [ih, Nat.add_right_comm, Nat.add_assoc]
      | false => exact ih n

/-- **Entries into a kind of phase are counted by moves.** What grows by one with each move into a
phase of the kind grows by the number of entries. -/
theorem entries_nth {kind : Phase → Bool} {C : Nat → Nat}
    (hcount : ∀ n, C (n + 1) = C n + if kind (nth (n + 1)).phase then 1 else 0)
    (n : Nat) (ks : List Call) :
    C (n + (nth n).successes ks) = C n + (nth n).entries kind ks := by
  induction ks generalizing n with
  | nil => rfl
  | cons k ks ih =>
      rw [successes_cons, entries, make_nth]
      cases k.isDue (nth n).phase with
      | true =>
          show C (n + ((nth (n + 1)).successes ks + 1)) = C n +
            ((nth (n + 1)).entries kind ks + if kind (nth (n + 1)).phase then 1 else 0)
          rw [Nat.add_comm _ 1, ← Nat.add_assoc, ih, hcount]
          omega
      | false => exact ih n

/-- Every fourth move, counted from the first one, starts a restart. -/
theorem starts_nth (n : Nat) (ks : List Call) : (n + (nth n).successes ks + 3) / 4 =
    (n + 3) / 4 + (nth n).entries (· == .draining) ks := by
  refine entries_nth (C := fun n => (n + 3) / 4) (fun n => ?_) n ks
  have hiff : (nth (n + 1)).phase = .draining ↔ (n + 1) % 4 = 1 :=
    Phase.iterate_next_idle_eq_iff (k := 1) (by decide)
  simp only [beq_iff_eq, hiff]
  split <;> omega

/-- Every fourth move comes back to rest. -/
theorem returns_nth (n : Nat) (ks : List Call) : (n + (nth n).successes ks) / 4 =
    n / 4 + (nth n).entries (· == .idle) ks := by
  refine entries_nth (C := fun n => n / 4) (fun n => ?_) n ks
  have hiff : (nth (n + 1)).phase = .idle ↔ (n + 1) % 4 = 0 :=
    Phase.iterate_next_idle_eq_iff (k := 0) (by decide)
  simp only [beq_iff_eq, hiff]
  split <;> omega

/-- From rest to rest as many restarts start as come to their end. -/
theorem starts_eq_returns (hidle : (nth n).phase = .idle)
    (hidle' : ((nth n).after ks).phase = .idle) :
    (nth n).entries (· == .draining) ks = (nth n).entries (· == .idle) ks := by
  rw [after_nth] at hidle'
  have hn : n % 4 = 0 := (Phase.iterate_next_idle_eq_iff (k := 0) (by decide)).mp hidle
  have hn' : (n + (nth n).successes ks) % 4 = 0 :=
    (Phase.iterate_next_idle_eq_iff (k := 0) (by decide)).mp hidle'
  have hstarts := starts_nth n ks
  have hreturns := returns_nth n ks
  omega

/-- Who looked at a state has missed a change exactly if a call succeeded since. -/
theorem hasChanged_after_nth {w : Watcher} (hw : w.seen = n) :
    w.hasChanged ((nth n).after ks) = true ↔ 0 < (nth n).successes ks := by
  rw [after_nth, Watcher.hasChanged, hw, decide_eq_true_iff]
  show n ≠ n + (nth n).successes ks ↔ _
  omega

/-! ## The main result -/

theorem initial_eq_nth : initial = nth 0 := rfl

/-- **The number of successes determines the state**, whoever makes which calls in which order. Let
`n` of the calls have succeeded.

* The phase is the one after `n` moves, the restarts completed are a fourth of `n` rounded down (as
  far as the counter goes), and those started a fourth of `n` rounded up.
* Between two times at rest as many restarts start as end: one, if it is at rest again for the first
  time.
* The next call succeeds exactly if it is due. If it does not succeed it changes nothing, and a move
  that is refused reports the phase of that time.
* Who watches has missed a change exactly if a call has succeeded since the last look. -/
theorem successes_determine_state (ks : List Call) :
    (initial.after ks).phase = Phase.next^[initial.successes ks] .idle ∧
    (initial.after ks).completed = UInt64.ofNat (initial.successes ks / 4) ∧
    initial.entries (· == .draining) ks = (initial.successes ks + 3) / 4 ∧
    (∀ ks₁ ks₂, ks = ks₁ ++ ks₂ → (initial.after ks₁).phase = .idle →
      (initial.after ks).phase = .idle →
      (initial.after ks₁).entries (· == .draining) ks₂ =
        (initial.after ks₁).entries (· == .idle) ks₂) ∧
    (∀ k, ((initial.after ks).make k).1 = k.isDue (initial.after ks).phase) ∧
    (∀ k, ((initial.after ks).make k).1 = false →
      ((initial.after ks).make k).2 = initial.after ks) ∧
    (∀ source target, ((initial.after ks).make (.transition source target)).1 = false →
      ((initial.after ks).transition source target).1 =
        .error ⟨source, target, (initial.after ks).phase⟩) ∧
    (∀ ks₁ ks₂ w, ks = ks₁ ++ ks₂ →
      w = .subscribe (initial.after ks₁) ∨ (∃ w' : Watcher, w = w'.look (initial.after ks₁)) →
      (w.hasChanged (initial.after ks) = true ↔ 0 < (initial.after ks₁).successes ks₂)) := by
  have hstate : initial.after ks = nth (initial.successes ks) := by
    rw [initial_eq_nth, after_nth, Nat.zero_add]
  refine ⟨by rw [hstate]; rfl, by rw [hstate]; rfl, ?_, ?_, fun k => ?_, fun k hk => ?_,
    fun source target hk => ?_, ?_⟩
  · have hstarts := starts_nth 0 ks
    rw [initial_eq_nth]
    omega
  · rintro ks₁ ks₂ rfl hidle hidle'
    rw [after_append] at hidle'
    rw [initial_eq_nth, after_nth] at hidle hidle' ⊢
    exact starts_eq_returns hidle hidle'
  · rw [make_eq]
    cases k.isDue (initial.after ks).phase <;> rfl
  · rw [make_eq] at hk ⊢
    cases hdue : k.isDue (initial.after ks).phase with
    | true => simp [hdue] at hk
    | false => rfl
  · cases htransition : ((initial.after ks).transition source target).1 with
    | ok _ => simp [make, htransition, Except.isOk, Except.toBool] at hk
    | error e =>
        unfold transition at htransition
        split at htransition <;> cases htransition
        rfl
  · rintro ks₁ ks₂ w rfl hw
    rw [after_append]
    rw [initial_eq_nth, after_nth] at hw ⊢
    refine hasChanged_after_nth ?_
    rcases hw with rfl | ⟨w', rfl⟩
    · rfl
    · rfl

def round : List Call :=
  [.request, .request, .transition .draining .waiting, .transition .idle .draining,
    .transition .waiting .rebinding, .transition .rebinding .idle]

/-- A second restart like the first: who looked in between sees the same phase again, and has missed
its changes. A move from another phase changes nothing. -/
theorem successes_determine_state_twice :
    (initial.after (round ++ round)).completed = UInt64.ofNat (8 / 4) ∧
    (initial.after round).phase = .idle ∧ (initial.after (round ++ round)).phase = .idle ∧
    (initial.after round).entries (· == .draining) round =
      (initial.after round).entries (· == .idle) round ∧
    (initial.after round).entries (· == .idle) round = 1 ∧
    ((initial.after (round ++ round)).make (.transition .waiting .rebinding)).1 = false ∧
    ((initial.after (round ++ round)).make (.transition .waiting .rebinding)).2 =
      initial.after (round ++ round) ∧
    ((initial.after (round ++ round)).transition .waiting .rebinding).1 =
      .error ⟨.waiting, .rebinding, .idle⟩ ∧
    (Watcher.subscribe (initial.after round)).hasChanged (initial.after (round ++ round)) =
      true := by
  obtain ⟨-, hcompleted, -, hbetween, -, hfailed, hreport, hwatch⟩ :=
    successes_determine_state (round ++ round)
  have hsuccesses : initial.successes (round ++ round) = 8 := by decide
  have hsince : 0 < (initial.after round).successes round := by decide
  rw [hsuccesses] at hcompleted
  exact ⟨hcompleted, by decide, by decide, hbetween round round rfl (by decide) (by decide),
    by decide, by decide, hfailed _ (by decide), hreport _ _ (by decide),
    (hwatch round round _ rfl (.inl rfl)).mpr hsince⟩

end Coordinator

end SocketGateway.Restart
