import Mathlib.Data.List.Induction
import SocketGateway.Proofs.Course
import SocketGateway.Proofs.Vacancy

/-!
# How a run ends

A run that has begun with a listener comes to its end in one of two ways: somebody shuts it down,
and then nothing is left of it; or all attempts of one rebind have failed. Until then the
supervisor holds a listener whenever it is about to begin another round, and whenever it binds
again it asks for the port of its last listener. `Charted` reads what the supervisor does and holds
off the moves of the run so far, and each rule of the course keeps it.
-/

namespace SocketGateway

open SocketGateway.Net (SocketAddress)

/-! ## What has come before -/

def Move.result? : Move → Option (Except GatewayError SocketAddress)
  | .bound r => some r
  | _ => none

def Move.bindAfter (a : SocketAddress) : Move → SocketAddress
  | .bound (.ok a') => a'
  | _ => a

def lastBind (a : SocketAddress) (ms : List Move) : SocketAddress := ms.foldl Move.bindAfter a

/-- **The last rebind of a run has failed so far**: these are the errors of all attempts to bind
since the supervisor noticed the restart. -/
def HasFailed (ms : List Move) (es : List GatewayError) : Prop :=
  ∃ ms₁ ms₂, ms = ms₁ ++ .noticeRestart :: ms₂ ∧ .noticeRestart ∉ ms₂ ∧
    ms₂.filterMap Move.result? = es.map .error

variable {ms : List Move} {m : Move} {es : List GatewayError} {e : GatewayError} {a : SocketAddress}
  {n : Nat} {d d' : Duty}

theorem lastBind_snoc : lastBind a (ms ++ [m]) = m.bindAfter (lastBind a ms) := List.foldl_append

theorem Move.bindAfter_of_isPlain (hm : m.isPlain = true) : m.bindAfter a = a := by
  cases m with
  | bound => cases hm
  | _ => rfl

theorem Move.result?_of_isPlain (hm : m.isPlain = true) : m.result? = none := by
  cases m with
  | bound => cases hm
  | _ => rfl

theorem hasFailed_notice : HasFailed (ms ++ [.noticeRestart]) [] := ⟨ms, [], rfl, by simp, rfl⟩

theorem HasFailed.plain (h : HasFailed ms es) (hm : m.isPlain = true) :
    HasFailed (ms ++ [m]) es := by
  obtain ⟨ms₁, ms₂, rfl, hnone, hresults⟩ := h
  refine ⟨ms₁, ms₂ ++ [m], by simp, ?_, ?_⟩
  · rw [List.mem_append, List.mem_singleton]
    rintro (hmem | rfl)
    · exact hnone hmem
    · cases hm
  · simp [Move.result?_of_isPlain hm, hresults]

theorem HasFailed.again (h : HasFailed ms es) :
    HasFailed (ms ++ [.bound (.error e)]) (es ++ [e]) := by
  obtain ⟨ms₁, ms₂, rfl, hnone, hresults⟩ := h
  refine ⟨ms₁, ms₂ ++ [.bound (.error e)], by simp, by simpa using hnone, ?_⟩
  rw [List.filterMap_append, hresults, List.map_append]
  rfl

/-- An error of a rebind that has failed is that of an attempt. -/
theorem HasFailed.mem (h : HasFailed ms es) (he : e ∈ es) : .bound (.error e) ∈ ms := by
  obtain ⟨ms₁, ms₂, rfl, -, hresults⟩ := h
  have hresult : .error e ∈ ms₂.filterMap Move.result? := by
    rw [hresults]
    exact List.mem_map_of_mem he
  obtain ⟨m, hm, hr⟩ := List.mem_filterMap.mp hresult
  cases m with
  | bound r =>
      cases hr
      exact List.mem_append_right _ (List.mem_cons_of_mem _ hm)
  | _ => cases hr

/-- The address is that of the last listener. -/
theorem Course.address (h : Course n d m d') (ha : d.address = some a) :
    d'.address = some (m.bindAfter a) := by
  cases h with
  | aside plain | stage _ _ _ plain =>
      rw [Move.bindAfter_of_isPlain plain]
      exact ha
  | bound => rfl
  | _ => exact ha

/-- Only a rebind is given a listener within a run. -/
theorem Course.binding (h : Course n d (.bound (.ok a)) d') :
    ∃ port k, d.control = .binding port (.rebind k) := by
  cases h with
  | aside plain | stage _ _ _ plain => cases plain
  | bound control => exact ⟨_, _, control⟩

/-! ## The invariant -/

/-- **What has come before the supervisor does what it does**, given where the last listener
listens and which one it holds: it holds the last listener while it runs and closes it when it
stops. When it stops for a restart, or waits or binds after that, it is for the port of the last
listener, and as many attempts as it has counted have failed. It shuts down because it was asked
to, and fails because all attempts of a rebind have failed. -/
def Control.isDue (n : Nat) (a : SocketAddress) (ms : List Move) (listener : Option SocketAddress) :
    Control → Prop
  | .looping | .accepting => listener = some a
  | .stopping (.rebind port) s => port = a.port ∧ HasFailed ms [] ∧ (s ≠ .closing → listener = none)
  | .stopping .shutdown s => .shutdown ∈ ms ∧ (s ≠ .closing → listener = none)
  | .delaying port k | .binding port (.rebind k) =>
    port = a.port ∧ k ≤ n ∧ ∃ es, HasFailed ms es ∧ es.length + 1 = k
  | .finished (.ok _) => .shutdown ∈ ms ∧ listener = none
  | .finished (.error e) => ∃ es, HasFailed ms es ∧ es.length = n ∧ es.getLast? = some e
  | .ready | .stopping .stop _ | .binding _ .start => False

/-- **What a supervisor does and holds agrees with the moves of its run**, which began with a
listener at an address. -/
structure Charted (n : Nat) (a : SocketAddress) (ms : List Move) (d : Duty) : Prop where
  address : d.address = some (lastBind a ms)
  due : d.control.isDue n (lastBind a ms) ms d.listener

theorem Charted.due_of {c : Control} (h : Charted n a ms d) (hcontrol : d.control = c) :
    c.isDue n (lastBind a ms) ms d.listener := hcontrol ▸ h.due

/-- What is due stays due when nothing has happened to the supervisor. -/
theorem Control.isDue_of_isPlain {c : Control} {listener : Option SocketAddress}
    (h : c.isDue n a ms listener) (hm : m.isPlain = true) : c.isDue n a (ms ++ [m]) listener := by
  have hmem : ∀ {m'}, m' ∈ ms → m' ∈ ms ++ [m] := List.mem_append_left _
  unfold isDue at h ⊢
  split at h
  · exact h
  · exact h
  · exact ⟨h.1, h.2.1.plain hm, h.2.2⟩
  · exact ⟨hmem h.1, h.2⟩
  · obtain ⟨hport, hk, es, hes, hlength⟩ := h
    exact ⟨hport, hk, es, hes.plain hm, hlength⟩
  · obtain ⟨hport, hk, es, hes, hlength⟩ := h
    exact ⟨hport, hk, es, hes.plain hm, hlength⟩
  · exact ⟨hmem h.1, h.2⟩
  · obtain ⟨es, hes, hlast⟩ := h
    exact ⟨es, hes.plain hm, hlast⟩
  · cases h
  · cases h
  · cases h

/-- **Each rule of the course keeps what is due.** -/
theorem Course.isDue (hcourse : Course n d m d') (hn : 1 ≤ n) (haddress : d.address = some a)
    (h : d.control.isDue n a ms d.listener) :
    d'.control.isDue n (m.bindAfter a) (ms ++ [m]) d'.listener := by
  cases hcourse with
  | aside plain =>
      rw [Move.bindAfter_of_isPlain plain]
      exact Control.isDue_of_isPlain h plain
  | round control held =>
      rw [control] at h
      exact h
  | unheld control held =>
      rw [control] at h
      cases held.symm.trans h
  | notice control address =>
      obtain rfl : _ = a := Option.some.inj (address.symm.trans haddress)
      exact ⟨rfl, hasFailed_notice, fun hne => absurd rfl hne⟩
  | shutdown control =>
      exact ⟨List.mem_append_right _ (List.mem_singleton_self _), fun hne => absurd rfl hne⟩
  | @close p control =>
      rw [control] at h
      cases p with
      | stop => exact h
      | shutdown => exact ⟨List.mem_append_left _ h.1, fun _ => rfl⟩
      | rebind port => exact ⟨h.1, h.2.1.plain rfl, fun _ => rfl⟩
  | @stage _ p s s' control closed _ plain =>
      rw [Move.bindAfter_of_isPlain plain]
      rw [control] at h
      cases p with
      | stop => exact h
      | shutdown => exact ⟨List.mem_append_left _ h.1, fun _ => h.2 closed⟩
      | rebind port => exact ⟨h.1, h.2.1.plain plain, fun _ => h.2.2 closed⟩
  | stopped control =>
      rw [control] at h
      exact ⟨List.mem_append_left _ h.1, h.2 StopStage.noConfusion⟩
  | wait control =>
      rw [control] at h
      exact ⟨h.1, hn, [], h.2.1.plain rfl, rfl⟩
  | attempt control =>
      rw [control] at h
      obtain ⟨hport, hk, es, hes, hlength⟩ := h
      exact ⟨hport, hk, es, hes.plain rfl, hlength⟩
  | bound => exact rfl
  | retry control more =>
      rw [control] at h
      obtain ⟨hport, -, es, hes, hlength⟩ := h
      refine ⟨hport, more, _, hes.again, ?_⟩
      rw [List.length_append, List.length_singleton, hlength]
  | giveUp control last =>
      rw [control] at h
      obtain ⟨-, hk, es, hes, hlength⟩ := h
      refine ⟨_, hes.again, ?_, List.getLast?_concat⟩
      rw [List.length_append, List.length_singleton, hlength]
      exact Nat.le_antisymm hk last

theorem Charted.step (h : Charted n a ms d) (hn : 1 ≤ n) (hcourse : Course n d m d') :
    Charted n a (ms ++ [m]) d' := by
  refine ⟨?_, ?_⟩
  · rw [lastBind_snoc]
    exact hcourse.address h.address
  · rw [lastBind_snoc]
    exact hcourse.isDue hn h.address h.due

/-- Whether an attempt to bind that fails does so for a reason of its own: because of the address,
or because the system refuses. -/
def Move.failsToBind : Move → Bool
  | .bound (.error (.invalidAddress _)) => true
  | .bound (.error (.bind ..)) => true
  | .bound (.error (.io _)) => true
  | .bound (.error _) => false
  | _ => true

namespace Gateway

variable {g g' : Gateway} {ms₀ : List Move} {g₀ g₁ : Gateway} {router : Router HandlerSet}
  {beat : Config.Heartbeat} {limit attempts : Nat}

/-! ## Ports -/

/-- Whether a listener, if a move gives one, listens at the port that was asked for. Who asks for
port 0 is content with any. -/
def honoursPort (g : Gateway) : Move → Bool
  | .bound (.ok a) =>
    match g.control with
    | .binding port _ => port == 0 || a.port == port
    | _ => true
  | _ => true

/-- **What is expected of the system** throughout a run. -/
def honoursPorts (g : Gateway) : List Move → Bool
  | [] => true
  | m :: ms => g.honoursPort m && (g.step m).all (·.honoursPorts ms)

theorem honoursPorts_snoc (h : g.steps ms = some g') :
    g.honoursPorts (ms ++ [m]) = (g.honoursPorts ms && g'.honoursPort m) := by
  induction ms generalizing g with
  | nil =>
      cases h
      cases hstep : g'.step m <;> simp [honoursPorts, hstep]
  | cons m' ms ih =>
      rw [steps_cons, Option.bind_eq_some_iff] at h
      obtain ⟨next, hnext, h⟩ := h
      simp only [List.cons_append, honoursPorts, hnext, Option.all_some, ih h, Bool.and_assoc]

/-! ## Runs -/

/-- A run begins with the listener that the supervisor holds. -/
theorem onRun_of_run (hpaced : g₀.Paced) (hsound : g₀.Sound) (hlistener : g₀.listener = some a)
    (hbegin : g₀.step .run = some g₁) : g₁.OnRun ∧ Charted n a [] g₁.duty := by
  have hpaced₁ : g₁.Paced := hpaced.step rfl hbegin
  have hsound₁ : g₁.Sound := hsound.step hbegin
  simp only [Gateway.step] at hbegin
  split at hbegin <;> cases hbegin
  refine ⟨⟨hpaced₁, rfl, rfl, hsound₁.held a hlistener⟩, hpaced.listening.known a hlistener, ?_⟩
  exact hlistener

theorem charted_of_steps (hrun : g.steps ms = some g') (hms : ∀ m ∈ ms, m.leavesRestarts = true)
    (hg : g.OnRun) (hcharted : Charted (max 1 g.attempts) a [] g.duty) :
    g'.OnRun ∧ g'.attempts = g.attempts ∧ Charted (max 1 g.attempts) a ms g'.duty := by
  induction ms using List.reverseRecOn generalizing g' with
  | nil =>
      cases hrun
      exact ⟨hg, rfl, hcharted⟩
  | append_singleton ms m ih =>
      rw [steps_snoc, Option.bind_eq_some_iff] at hrun
      obtain ⟨g₂, hrun, hstep⟩ := hrun
      obtain ⟨hon, hattempts, hcharted₂⟩ := ih hrun fun m hm => hms m (List.mem_append_left _ hm)
      obtain ⟨hon', hgoes⟩ := hon.step (hms m (by simp)) hstep
      have hcourse := hgoes.course
      rw [hattempts] at hcourse
      exact ⟨hon', (attempts_step hstep).trans hattempts,
        hcharted₂.step (Nat.le_max_left _ _) hcourse⟩

theorem lastBind_port {port : UInt16} (ha : a.port = port)
    (hms : ∀ a', .bound (.ok a') ∈ ms → a'.port = port) : (lastBind a ms).port = port := by
  induction ms generalizing a with
  | nil => exact ha
  | cons m ms ih =>
      refine ih ?_ fun a' ha' => hms a' (List.mem_cons_of_mem _ ha')
      unfold Move.bindAfter
      split
      · exact hms _ List.mem_cons_self
      · exact ha

/-- **All listeners of a run have one port**, if the system honours ports. -/
theorem port_of_steps (hrun : g.steps ms = some g') (hms : ∀ m ∈ ms, m.leavesRestarts = true)
    (hg : g.OnRun) (hcharted : Charted (max 1 g.attempts) a [] g.duty) (hport : a.port ≠ 0)
    (hports : g.honoursPorts ms = true) : ∀ a', .bound (.ok a') ∈ ms → a'.port = a.port := by
  induction ms using List.reverseRecOn generalizing g' with
  | nil =>
      intro a' ha'
      cases ha'
  | append_singleton ms m ih =>
      rw [steps_snoc, Option.bind_eq_some_iff] at hrun
      obtain ⟨g₂, hrun, hstep⟩ := hrun
      rw [honoursPorts_snoc hrun, Bool.and_eq_true] at hports
      have hms' : ∀ m ∈ ms, m.leavesRestarts = true := fun m hm => hms m (List.mem_append_left _ hm)
      have hbefore := ih hrun hms' hports.1
      intro a' ha'
      rcases List.mem_append.mp ha' with ha' | ha'
      · exact hbefore a' ha'
      · -- the port that was asked for is that of the last listener, and so not 0
        obtain rfl := List.mem_singleton.mp ha'
        obtain ⟨hon, -, hcharted₂⟩ := charted_of_steps hrun hms' hg hcharted
        have hgoes := (hon.step (hms _ (by simp)) hstep).2
        obtain ⟨port, k, hcontrol⟩ := hgoes.course.binding
        have hasked : port = a.port :=
          (hcharted₂.due_of hcontrol).1.trans (lastBind_port rfl hbefore)
        have hhonoured := hports.2
        change g₂.control = _ at hcontrol
        simp only [honoursPort, hcontrol, Bool.or_eq_true, beq_iff_eq] at hhonoured
        rcases hhonoured with hzero | hhonoured
        · exact absurd (hasked.symm.trans hzero) hport
        · exact hhonoured.trans hasked

/-! ## The main result -/

/-- **How a run ends, and what it does until then.** Take a supervisor that holds a listener (`a`)
and begins to run, and any moves of its run in which restarts are left to it, and only sessions
register.

* If the run returns then somebody has shut it down, the listener is closed, and nobody is left.
* If it fails then it has noticed a restart, and since then as many attempts to bind have ended as
  a rebind has, all of them with errors, and it fails with the last one. So it never fails for want
  of a listener, as long as no attempt to bind does.
* Before each round, and while it accepts streams, it holds its last listener.
* When it binds again it asks for the port of its last listener, which is what it remembers.
* If the first listener has a port, as all have, and the system honours ports, then all listeners
  of the run have this port. -/
theorem outcomes_of_run
    (hstart : (fresh (.fresh router beat limit) attempts).steps ms₀ = some g₀)
    (hlistener : g₀.listener = some a) (hbegin : g₀.step .run = some g₁)
    (hrun : g₁.steps ms = some g)
    (hrestarts : ∀ m ∈ ms₀ ++ ms, m.leavesRestarts = true) (hown : ∀ ns, .register ns ∉ ms₀ ++ ms)
    (hfails : ∀ m ∈ ms, m.failsToBind = true) :
    (g.control = .finished (.ok ()) → .shutdown ∈ ms ∧ g.listener = none ∧
      g.board.registry.size = 0 ∧ g.board.hasLive = false) ∧
    (∀ e, g.control = .finished (.error e) →
      (∃ es, HasFailed ms es ∧ es.length = max 1 attempts ∧ es.getLast? = some e) ∧
        e ≠ .notStarted) ∧
    (g.control = .looping ∨ g.control = .accepting → g.listener = some (lastBind a ms)) ∧
    (∀ port k, g.control = .binding port (.rebind k) →
      g.address = some (lastBind a ms) ∧ port = (lastBind a ms).port) ∧
    (a.port ≠ 0 → g₁.honoursPorts ms = true → ∀ a', .bound (.ok a') ∈ ms → a'.port = a.port) := by
  have hrestarts₀ : ∀ m ∈ ms₀, m.leavesRestarts = true :=
    fun m hm => hrestarts m (List.mem_append_left _ hm)
  have hrestarts₁ : ∀ m ∈ ms, m.leavesRestarts = true :=
    fun m hm => hrestarts m (List.mem_append_right _ hm)
  obtain ⟨hon, hcharted₁⟩ := onRun_of_run (n := max 1 g₁.attempts)
    (.of_steps hrestarts₀ hstart .fresh) (.of_steps hstart .fresh) hlistener hbegin
  obtain ⟨-, -, hcharted⟩ := charted_of_steps hrun hrestarts₁ hon hcharted₁
  have hattempts : g₁.attempts = attempts :=
    (attempts_step hbegin).trans (attempts_of_steps hstart)
  rw [hattempts] at hcharted
  refine ⟨fun hcontrol => ?_, fun e hcontrol => ⟨hcharted.due_of hcontrol, ?_⟩,
    fun hcontrol => hcontrol.elim hcharted.due_of hcharted.due_of,
    fun port k hcontrol => ⟨hcharted.address, (hcharted.due_of hcontrol).1⟩,
    fun hport hports => port_of_steps hrun hrestarts₁ hon hcharted₁ hport hports⟩
  · obtain ⟨hshutdown, hclosed⟩ := hcharted.due_of hcontrol
    have hvacant : g.board.Vacant := by
      have hemptied₀ : g₀.Emptied :=
        emptied_of_steps hstart (fun ns h => hown ns (List.mem_append_left _ h)) .fresh
      have hemptied : g.Emptied :=
        emptied_of_steps hrun (fun ns h => hown ns (List.mem_append_right _ h))
          (hemptied₀.step (fun _ => Move.noConfusion) hbegin)
      exact hemptied.vacant (hcontrol ▸ rfl)
    exact ⟨hshutdown, hclosed, hvacant.nobody, hvacant.silent⟩
  · rintro rfl
    obtain ⟨es, hes, -, hlast⟩ := hcharted.due_of hcontrol
    cases hfails _ (hes.mem (List.mem_of_getLast? hlast))

def serving : List Move := [.start 0, .bound (.ok smallAddress)]

def unbinding : List Move := draining ++ [.graceOver, .proceed, .proceed, .delayOver]

def taken : Move := .bound (.error (.bind smallAddress .inUse))

def rebinding : List Move :=
  .proceed :: unbinding ++ [taken, .delayOver, .bound (.ok smallAddress), .proceed, .shutdown,
    .proceed, .proceed, .graceOver, .proceed, .proceed]

def failing : List Move := .proceed :: unbinding ++ [taken, .delayOver, taken, .delayOver, taken]

/-- The first run returns, with two listeners at one port, and the second one fails. -/
theorem outcomes_of_run_rebinding :
    ∃ g₀ g₁ g g', small.steps serving = some g₀ ∧ g₀.step .run = some g₁ ∧
      g₁.steps rebinding = some g ∧ g.control = .finished (.ok ()) ∧
      .shutdown ∈ rebinding ∧ g.listener = none ∧ g.board.registry.size = 0 ∧
      g.board.hasLive = false ∧ (∀ a, .bound (.ok a) ∈ rebinding → a.port = 8080) ∧
      g₁.steps failing = some g' ∧ g'.control = .finished (.error (.bind smallAddress .inUse)) ∧
      ∃ es, HasFailed failing es ∧ es.length = 3 ∧
        es.getLast? = some (.bind smallAddress .inUse) := by
  have hmain : ∃ g₀ g₁ g g', small.steps serving = some g₀ ∧ g₀.listener = some smallAddress ∧
      g₀.step .run = some g₁ ∧ g₁.honoursPorts rebinding = true ∧
      g₁.steps rebinding = some g ∧ g.control = .finished (.ok ()) ∧
      g₁.steps failing = some g' ∧ g'.control = .finished (.error (.bind smallAddress .inUse)) :=
    ⟨_, _, _, _, rfl, rfl, rfl, rfl, rfl, rfl, rfl, rfl⟩
  obtain ⟨g₀, g₁, g, g', hstart, hlistener, hbegin, hports, hrun, hok, hrun', herror⟩ := hmain
  have hrestarts : ∀ m ∈ serving ++ rebinding, m.leavesRestarts = true := List.all_eq_true.mp rfl
  have hrestarts' : ∀ m ∈ serving ++ failing, m.leavesRestarts = true := List.all_eq_true.mp rfl
  have hown : ∀ ns, .register ns ∉ serving ++ rebinding := by
    intro ns h
    simp [serving, rebinding, unbinding, draining, taken] at h
  have hown' : ∀ ns, .register ns ∉ serving ++ failing := by
    intro ns h
    simp [serving, failing, unbinding, draining, taken] at h
  obtain ⟨hreturned, -, -, -, hone⟩ :=
    outcomes_of_run hstart hlistener hbegin hrun hrestarts hown (List.all_eq_true.mp rfl)
  obtain ⟨-, hfailed, -, -, -⟩ :=
    outcomes_of_run hstart hlistener hbegin hrun' hrestarts' hown' (List.all_eq_true.mp rfl)
  obtain ⟨hshutdown, hclosed, hnobody, hsilent⟩ := hreturned hok
  exact ⟨g₀, g₁, g, g', hstart, hbegin, hrun, hok, hshutdown, hclosed, hnobody, hsilent,
    hone (by decide) hports, hrun', herror, (hfailed _ herror).1⟩

end Gateway

end SocketGateway
