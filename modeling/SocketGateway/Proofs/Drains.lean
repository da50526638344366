import Mathlib.Algebra.GroupWithZero.Nat
import Mathlib.Data.List.Nodup
import SocketGateway.Proofs.Occupancy

/-!
# Drains and what they leave behind

Over a whole history a registry gives out two things: to whoever calls it the connections that it
removes and the numbers that it drains, and into the mailboxes its close frames. Both are accounted
for. Whoever was taken has been removed, or drained, or is still there. And each mailbox has one
ticket, which its connection brings when it comes and which a drain may spend: so no mailbox ever
gets a second close frame.
-/

namespace SocketGateway.Registry

open SocketGateway.Wire (CloseCode Frame)

/-! ## Along a history -/

def along {α : Type} (f : Registry × Mailroom → Event → α) (s : Registry × Mailroom) :
    List Event → List α
  | [] => []
  | e :: es => f s e :: along f (undergo s e) es

def put (j : MailboxId) (s : Registry × Mailroom) (e : Event) : List Frame :=
  ((undergo s e).2.frames j).drop (s.2.frames j).length

def admitted (s : Registry × Mailroom) : Event → Nat
  | .register c =>
    match s.1.register c with
    | .ok _ => 1
    | .error _ => 0
  | _ => 0

def removed (s : Registry × Mailroom) : Event → Nat
  | .remove id =>
    match (s.1.remove id).1 with
    | some _ => 1
    | none => 0
  | _ => 0

def drained (s : Registry × Mailroom) : Event → Nat
  | .drain code reason => (s.1.drain s.2 code reason).1
  | _ => 0

def puts (limit : Nat) (m : Mailroom) (es : List Event) (j : MailboxId) : List Frame :=
  (along (put j) (withLimit limit, m) es).flatten

def total (f : Registry × Mailroom → Event → Nat) (limit : Nat) (m : Mailroom) (es : List Event) :
    Nat :=
  (along f (withLimit limit, m) es).sum

def newcomers (es : List Event) : List Connection :=
  es.filterMap fun
    | .register c => some c
    | _ => none

/-- Each connection that comes has an id and a mailbox of its own. -/
structure Apart (es : List Event) : Prop where
  ids : ((newcomers es).map (·.id)).Nodup
  mailboxes : ((newcomers es).map (·.mailbox)).Nodup

variable {α : Type} {limit : Nat} {m : Mailroom} {es before since : List Event} {e : Event}
  {r : Registry} {c d : Connection} {j : MailboxId} {code : CloseCode} {reason : String}
  {s : Registry × Mailroom}

theorem along_snoc {f : Registry × Mailroom → Event → α} :
    along f s (es ++ [e]) = along f s es ++ [f (es.foldl undergo s) e] := by
  induction es generalizing s with
  | nil => rfl
  | cons e' es ih =>
      show f s e' :: along f (undergo s e') (es ++ [e]) = _
      rw [ih]
      rfl

theorem puts_snoc : puts limit m (es ++ [e]) j = puts limit m es j ++ put j (after limit m es) e := by
  unfold puts
  rw [along_snoc, List.flatten_append, List.flatten_singleton]
  rfl

theorem total_snoc {f : Registry × Mailroom → Event → Nat} :
    total f limit m (es ++ [e]) = total f limit m es + f (after limit m es) e := by
  unfold total
  rw [along_snoc, List.sum_append, List.sum_singleton]
  rfl

theorem newcomers_append : newcomers (before ++ since) = newcomers before ++ newcomers since :=
  List.filterMap_append

theorem mem_newcomers_iff : c ∈ newcomers es ↔ .register c ∈ es := by
  unfold newcomers
  rw [List.mem_filterMap]
  constructor
  · rintro ⟨e, he, hc⟩
    split at hc
    · cases hc
      exact he
    · cases hc
  · exact fun h => ⟨_, h, rfl⟩

/-! ## Who is drained -/

/-- The connections of a registry are those that can be found. -/
theorem mem_values_content_iff : c ∈ (content limit m es).connections.values ↔
    (content limit m es).get? c.id = some c := by
  constructor
  · intro h
    obtain ⟨⟨id, c'⟩, hmem, heq⟩ := List.mem_map.mp h
    cases heq
    have hfound : (content limit m es).get? id = some c' :=
      Table.find?_of_mem_entries nodup_ids_content hmem
    rwa [id_of_get?_content hfound]
  · exact Table.mem_values_of_find?

/-- Only a drain puts frames into mailboxes. -/
theorem put_of_ne_drain (h : ∀ code reason, e ≠ .drain code reason) : put j s e = [] := by
  unfold put
  cases e with
  | drain code reason => exact absurd rfl (h code reason)
  | register c =>
      simp only [undergo]
      split <;> simp
  | remove id => simp [undergo]
  | hangUp i =>
      by_cases hi : i = j
      · subst hi
        simp [undergo]
      · simp [undergo, Mailroom.frames_hangUp_of_ne hi]

/-- A drain puts a close frame into a mailbox for each connection that has it, if anybody takes
frames out of it. -/
theorem put_drain : put j s (.drain code reason) = if s.2.isReceiving j = true then
    (s.1.connections.values.filter (·.mailbox = j)).map fun _ => .closing code reason else [] := by
  show ((closeAll code reason s.1.connections.values s.2).frames j).drop _ = _
  rw [frames_closeAll, List.drop_left]

def holders (r : Registry) (j : MailboxId) : Nat :=
  r.connections.values.countP (·.mailbox = j)

theorem length_put_drain_le : (put j s (.drain code reason)).length ≤ holders s.1 j := by
  rw [put_drain, holders, List.countP_eq_length_filter]
  split
  · exact Nat.le_of_eq (List.length_map _)
  · exact Nat.zero_le _

/-- **One ticket for each mailbox**: the close frames in it, and the connections that may still lead
to one, are no more than the connections that came with it. -/
theorem length_puts_add_holders_le : (puts limit m es j).length + holders (content limit m es) j ≤
    (newcomers es).countP (·.mailbox = j) := by
  induction es using List.reverseRecOn with
  | nil => exact Nat.le_refl 0
  | append_singleton es e ih =>
      rw [puts_snoc, newcomers_append, List.length_append, List.countP_append]
      cases e with
      | register c =>
          rw [put_of_ne_drain fun _ _ => Event.noConfusion]
          have hnew : (newcomers [.register c]).countP (·.mailbox = j) =
              if c.mailbox = j then 1 else 0 := by
            simp [newcomers, List.countP_cons]
          rw [hnew]
          by_cases hadmits : (content limit m es).Admits c
          · obtain ⟨r', hregister⟩ := hadmits
            rw [content_snoc, undergo_register hregister, eq_insert_of_register hregister]
            have hvalues := Table.countP_values_insert_le (t := (content limit m es).connections)
              (k := c.id) (v := c) (p := fun c => decide (c.mailbox = j))
            simp only [decide_eq_true_eq] at hvalues
            simp only [holders, List.length_nil] at ih ⊢
            omega
          · rw [content_snoc_refused hadmits]
            simp only [List.length_nil]
            omega
      | remove id =>
          rw [put_of_ne_drain fun _ _ => Event.noConfusion, content_snoc]
          have hvalues : holders ((content limit m es).remove id).2 j ≤
              holders (content limit m es) j := Table.values_erase_sublist.countP_le
          show (puts limit m es j).length + 0 + holders ((content limit m es).remove id).2 j ≤ _
          omega
      | drain code reason =>
          have hput : (put j (after limit m es) (.drain code reason)).length ≤
              holders (content limit m es) j := length_put_drain_le
          have hnobody : holders (content limit m (es ++ [.drain code reason])) j = 0 := by
            rw [content_snoc]
            rfl
          rw [hnobody]
          omega
      | hangUp i =>
          rw [put_of_ne_drain fun _ _ => Event.noConfusion, content_snoc_hangUp]
          simp only [List.length_nil]
          omega

/-- **A mailbox has one ticket at most.** -/
theorem tickets_le_one (h : Apart es) :
    (puts limit m es j).length + holders (content limit m es) j ≤ 1 := by
  have hone : (newcomers es).countP (·.mailbox = j) ≤ 1 := by
    have hcount := List.nodup_iff_count_le_one.mp h.mailboxes j
    rwa [List.count, List.countP_map] at hcount
  exact Nat.le_trans length_puts_add_holders_le hone

/-- **What a history puts into a mailbox** are the close frames of its drains, each of them for a
connection that is live then and whose mailbox somebody receives from. -/
theorem mem_puts_iff {f : Frame} : f ∈ puts limit m es j ↔
    ∃ es₁ code reason es₂ c, es = es₁ ++ .drain code reason :: es₂ ∧ f = .closing code reason ∧
      (content limit m es₁).get? c.id = some c ∧ c.mailbox = j ∧
      (after limit m es₁).2.isReceiving j = true := by
  induction es using List.reverseRecOn with
  | nil => simp [puts, along]
  | append_singleton es e ih =>
      rw [puts_snoc, List.mem_append, ih]
      constructor
      · rintro (⟨es₁, code, reason, es₂, c, rfl, hf, hlive, hj, hr⟩ | hput)
        · exact ⟨es₁, code, reason, es₂ ++ [e], c, by simp, hf, hlive, hj, hr⟩
        · cases e with
          | drain code reason =>
              rw [put_drain] at hput
              split at hput
              · rename_i hr
                obtain ⟨c, hc, rfl⟩ := List.mem_map.mp hput
                obtain ⟨hmem, hj⟩ := List.mem_filter.mp hc
                exact ⟨es, code, reason, [], c, rfl, rfl, mem_values_content_iff.mp hmem,
                  of_decide_eq_true hj, hr⟩
              · cases hput
          | _ =>
              rw [put_of_ne_drain fun _ _ => Event.noConfusion] at hput
              cases hput
      · rintro ⟨es₁, code, reason, es₂, c, hsplit, rfl, hlive, hj, hr⟩
        rcases snoc_eq_split_iff.mp hsplit with ⟨rfl, rfl, rfl⟩ | ⟨rest, rfl, rfl⟩
        · right
          rw [put_drain, if_pos hr]
          have hmem : c ∈ (content limit m es).connections.values := mem_values_content_iff.mpr hlive
          exact List.mem_map.mpr ⟨c, List.mem_filter.mpr ⟨hmem, decide_eq_true hj⟩, rfl⟩
        · exact .inl ⟨es₁, code, reason, rest, c, rfl, rfl, hlive, hj, hr⟩

/-! ## Each connection by itself -/

namespace Apart

theorem left {es' : List Event} (h : Apart (es ++ es')) : Apart es := by
  obtain ⟨hids, hmailboxes⟩ := h
  rw [newcomers_append, List.map_append] at hids hmailboxes
  exact ⟨hids.of_append_left, hmailboxes.of_append_left⟩

/-- Two connections that came are the same if they have the same mailbox. -/
theorem eq_of_mailbox (h : Apart es) (hc : .register c ∈ es) (hd : .register d ∈ es)
    (hsame : c.mailbox = d.mailbox) : c = d :=
  List.inj_on_of_nodup_map h.mailboxes (mem_newcomers_iff.mpr hc) (mem_newcomers_iff.mpr hd) hsame

/-- A connection comes once. -/
theorem split_unique {es₁ es₂ es₁' es₂' : List Event} (h : Apart es)
    (hes : es = es₁ ++ .register c :: es₂) (hes' : es = es₁' ++ .register c :: es₂') :
    es₁' = es₁ ∧ es₂' = es₂ := by
  have honce : c ∉ newcomers es₁ ++ newcomers es₂ := by
    have hnodup := h.ids.of_map
    rw [hes, newcomers_append] at hnodup
    exact (List.nodup_cons.mp (List.nodup_middle.mp hnodup)).1
  rw [List.mem_append, mem_newcomers_iff, mem_newcomers_iff, not_or] at honce
  rw [hes] at hes'
  obtain ⟨h₁, -, h₂⟩ := (List.append_cons_inj_of_notMem honce.1 honce.2).mp hes'
  exact ⟨h₁.symm, h₂.symm⟩

end Apart

/-- A connection that is live when others are drained came before, was taken, and was not removed. -/
theorem exists_stays_of_live (h : (content limit m es).get? c.id = some c) :
    ∃ es₁ es₂, es = es₁ ++ .register c :: es₂ ∧ Stays limit m es₁ c es₂ := by
  obtain ⟨es₁, es₂, hsplit, -, hstays⟩ := get?_content_eq_some_iff.mp h
  exact ⟨es₁, es₂, hsplit, hstays.toStays⟩

/-- **A close frame is for the connection of the mailbox**: it came, was taken, was not removed, and
its receiver was there when it was drained. -/
theorem mem_puts_mailbox {f : Frame} (h : Apart es) (hc : .register c ∈ es)
    (hf : f ∈ puts limit m es c.mailbox) :
    ∃ es₁ code reason es₂, es = es₁ ++ .drain code reason :: es₂ ∧ f = .closing code reason ∧
      (content limit m es₁).get? c.id = some c ∧
      (after limit m es₁).2.isReceiving c.mailbox = true := by
  obtain ⟨es₁, code, reason, es₂, d, hsplit, hcode, hlive, hmailbox, hr⟩ := mem_puts_iff.mp hf
  obtain ⟨before, since, hbefore, -⟩ := exists_stays_of_live hlive
  have hd : .register d ∈ es := by simp [hsplit, hbefore]
  have hsame : d = c := h.eq_of_mailbox hd hc hmailbox
  subst hsame
  exact ⟨es₁, code, reason, es₂, hsplit, hcode, hlive, hr⟩

/-- Whoever is refused gets nothing. -/
theorem puts_of_refused {es₁ es₂ : List Event} (h : Apart es)
    (hsplit : es = es₁ ++ .register c :: es₂) (hrefused : ¬(content limit m es₁).Admits c) :
    puts limit m es c.mailbox = [] := by
  rw [List.eq_nil_iff_forall_not_mem]
  intro f hf
  obtain ⟨before, code, reason, rest, hdrain, -, hlive, -⟩ :=
    mem_puts_mailbox h (by simp [hsplit]) hf
  obtain ⟨before', since, rfl, hstays⟩ := exists_stays_of_live hlive
  rw [List.append_assoc, List.cons_append] at hdrain
  obtain ⟨rfl, -⟩ := h.split_unique hsplit hdrain
  exact hrefused hstays.admitted

/-- Whoever is removed before any drain gets nothing. -/
theorem puts_of_removed {es₁ es₂ es₃ : List Event} (h : Apart es)
    (hsplit : es = es₁ ++ .register c :: (es₂ ++ .remove c.id :: es₃))
    (hbefore : ∀ code reason, .drain code reason ∉ es₂) : puts limit m es c.mailbox = [] := by
  rw [List.eq_nil_iff_forall_not_mem]
  intro f hf
  obtain ⟨before, code, reason, rest, hdrain, -, hlive, -⟩ :=
    mem_puts_mailbox h (by simp [hsplit]) hf
  obtain ⟨before', since, rfl, hstays⟩ := exists_stays_of_live hlive
  rw [List.append_assoc, List.cons_append] at hdrain
  obtain ⟨-, hsince⟩ := h.split_unique hsplit hdrain
  -- of the removal and the drain the one that comes first is the removal
  rcases List.append_eq_append_iff.mp hsince with ⟨l, hl, htail⟩ | ⟨l, hl, htail⟩
  · cases l with
    | nil => cases htail
    | cons e l =>
        cases htail
        exact hbefore code reason (by simp [hl])
  · cases l with
    | nil => cases htail
    | cons e l =>
        cases htail
        have hspared := hstays.spared (.remove c.id) (by simp [hl])
        simp [Event.spares] at hspared

/-! ## What is counted -/

/-- A connection that comes has an id that is not there. -/
theorem contains_of_apart (h : Apart (es ++ [.register c])) :
    (content limit m es).contains c.id = false := by
  rw [Bool.eq_false_iff]
  intro hcontains
  obtain ⟨before, d, since, rfl, hid, -⟩ := contains_content_iff.mp hcontains
  have hids := h.ids
  rw [newcomers_append, List.map_append] at hids
  refine List.disjoint_of_nodup_append hids (a := c.id) ?_ ?_
  · rw [← hid]
    exact List.mem_map_of_mem (mem_newcomers_iff.mpr (by simp))
  · exact List.mem_map_of_mem (mem_newcomers_iff.mpr (by simp))

/-- **What came in went out or stays**, at every event. -/
theorem admitted_step (limit : Nat) (m : Mailroom) (h : Apart (es ++ [e])) :
    admitted (after limit m es) e + (content limit m es).size =
      removed (after limit m es) e + drained (after limit m es) e +
        (content limit m (es ++ [e])).size := by
  cases e with
  | register c =>
      by_cases hadmits : (content limit m es).Admits c
      · have habsent : (content limit m es).contains c.id = false := contains_of_apart h
        have hnew := Table.size_insert_of_contains_eq_false (v := c) habsent
        obtain ⟨r', hregister⟩ := hadmits
        have hone : admitted (after limit m es) (.register c) = 1 := by
          have hregister' : (after limit m es).1.register c = .ok r' := hregister
          simp only [admitted, hregister']
        rw [hone, content_snoc, undergo_register hregister, eq_insert_of_register hregister]
        show 1 + (content limit m es).connections.size = 0 + 0 + Table.size _
        rw [hnew]
        omega
      · have hnone : admitted (after limit m es) (.register c) = 0 := by
          cases hregister : (after limit m es).1.register c with
          | ok r' => exact absurd ⟨r', hregister⟩ hadmits
          | error _ => simp only [admitted, hregister]
        rw [hnone, content_snoc_refused hadmits]
        rfl
  | remove id =>
      rw [content_snoc]
      show 0 + (content limit m es).size = removed (after limit m es) (.remove id) + 0 +
        ((content limit m es).remove id).2.size
      cases hfind : (content limit m es).get? id with
      | some c =>
          have hcontains : (content limit m es).contains id = true := by
            rw [contains_eq, hfind]
            rfl
          have hone : removed (after limit m es) (.remove id) = 1 := by
            have hremove : ((after limit m es).1.remove id).1 = some c := hfind
            simp only [removed, hremove]
          have hsize : ((content limit m es).remove id).2.size + 1 = (content limit m es).size :=
            Table.size_erase_of_contains nodup_ids_content hcontains
          omega
      | none =>
          have hcontains : (content limit m es).contains id = false := by
            rw [contains_eq, hfind]
            rfl
          have hnone : removed (after limit m es) (.remove id) = 0 := by
            have hremove : ((after limit m es).1.remove id).1 = none := hfind
            simp only [removed, hremove]
          rw [remove_of_contains_eq_false hcontains, hnone]
  | drain code reason =>
      rw [content_snoc]
      show 0 + (content limit m es).size = 0 + (content limit m es).size + 0
      omega
  | hangUp i =>
      rw [content_snoc_hangUp]
      rfl

theorem total_admitted (h : Apart es) : total admitted limit m es =
    total removed limit m es + total drained limit m es + (content limit m es).size := by
  induction es using List.reverseRecOn with
  | nil => rfl
  | append_singleton es e ih =>
      have hbefore := ih h.left
      have hstep := admitted_step limit m h
      rw [total_snoc, total_snoc, total_snoc]
      omega

/-! ## The main result -/

/-- A drain puts a close frame behind everything that is in the mailbox of a live connection, whoever
else has gone. -/
theorem frames_of_drain (h : Apart es) {es₁ es₂ : List Event}
    (hsplit : es = es₁ ++ .drain code reason :: es₂)
    (hlive : (content limit m es₁).get? c.id = some c)
    (hr : (after limit m es₁).2.isReceiving c.mailbox = true) :
    (after limit m (es₁ ++ [.drain code reason])).2.frames c.mailbox =
      (after limit m es₁).2.frames c.mailbox ++ [.closing code reason] := by
  have hone : holders (content limit m es₁) c.mailbox ≤ 1 := by
    rw [hsplit] at h
    have htickets : (puts limit m es₁ c.mailbox).length + holders (content limit m es₁) c.mailbox ≤
        1 := tickets_le_one h.left
    omega
  have hmem : c ∈ (content limit m es₁).connections.values.filter (·.mailbox = c.mailbox) :=
    List.mem_filter.mpr ⟨mem_values_content_iff.mpr hlive, decide_eq_true rfl⟩
  have hsingle : ((content limit m es₁).connections.values.filter (·.mailbox = c.mailbox)).length =
      1 := by
    rw [holders, List.countP_eq_length_filter] at hone
    exact Nat.le_antisymm hone (List.length_pos_of_mem hmem)
  obtain ⟨c', hc'⟩ := List.length_eq_one_iff.mp hsingle
  rw [after_snoc]
  show (closeAll code reason (content limit m es₁).connections.values _).frames c.mailbox = _
  rw [frames_closeAll, if_pos hr, hc']
  rfl

/-- **What drains do over a whole history** in which each connection comes with an id and a mailbox of
its own, whoever hangs up in the meantime.

* A mailbox gets one frame at most. The mailbox of a connection that came gets one just if that was
  live at a drain and somebody received from its mailbox then: the close frame of that drain.
* Who is refused gets none, nor does who is removed before any drain.
* At each drain every live connection that has a receiver gets its frame, behind everything that was
  in its mailbox, whoever else has none. As many are drained as ids are live, and nobody is left.
* Whoever was taken was removed, or drained, or is there. -/
theorem drains_account_for_all (limit : Nat) (m : Mailroom) (h : Apart es) :
    (∀ j, (puts limit m es j).length ≤ 1) ∧
    (∀ c f, .register c ∈ es → (puts limit m es c.mailbox = [f] ↔
      ∃ es₁ code reason es₂, es = es₁ ++ .drain code reason :: es₂ ∧ f = .closing code reason ∧
        (content limit m es₁).get? c.id = some c ∧
        (after limit m es₁).2.isReceiving c.mailbox = true)) ∧
    (∀ es₁ c es₂, es = es₁ ++ .register c :: es₂ → ¬(content limit m es₁).Admits c →
      puts limit m es c.mailbox = []) ∧
    (∀ es₁ c es₂ es₃, es = es₁ ++ .register c :: (es₂ ++ .remove c.id :: es₃) →
      (∀ code reason, .drain code reason ∉ es₂) → puts limit m es c.mailbox = []) ∧
    (∀ es₁ code reason es₂, es = es₁ ++ .drain code reason :: es₂ →
      (∀ c, (content limit m es₁).get? c.id = some c →
        (after limit m es₁).2.isReceiving c.mailbox = true →
        (after limit m (es₁ ++ [.drain code reason])).2.frames c.mailbox =
          (after limit m es₁).2.frames c.mailbox ++ [.closing code reason]) ∧
      drained (after limit m es₁) (.drain code reason) = (content limit m es₁).ids.length ∧
      (content limit m es₁).ids.Nodup ∧
      (∀ id, id ∈ (content limit m es₁).ids ↔ (content limit m es₁).contains id = true) ∧
      (content limit m (es₁ ++ [.drain code reason])).isEmpty = true) ∧
    total admitted limit m es =
      total removed limit m es + total drained limit m es + (content limit m es).size := by
  have hone : ∀ j, (puts limit m es j).length ≤ 1 := fun j =>
    Nat.le_trans (Nat.le_add_right ..) (tickets_le_one h)
  refine ⟨hone, fun c f hc => ?_, fun es₁ c es₂ => puts_of_refused h,
    fun es₁ c es₂ es₃ => puts_of_removed h, fun es₁ code reason es₂ hsplit => ?_, total_admitted h⟩
  · constructor
    · intro hputs
      exact mem_puts_mailbox h hc (hputs ▸ List.mem_singleton_self f)
    · rintro ⟨es₁, code, reason, es₂, hsplit, hf, hlive, hr⟩
      have hmem : f ∈ puts limit m es c.mailbox :=
        mem_puts_iff.mpr ⟨es₁, code, reason, es₂, c, hsplit, hf, hlive, rfl, hr⟩
      obtain ⟨f', hf'⟩ := List.length_eq_one_iff.mp
        (Nat.le_antisymm (hone c.mailbox) (List.length_pos_of_mem hmem))
      rw [hf'] at hmem ⊢
      rw [List.mem_singleton.mp hmem]
  · refine ⟨fun c hlive hr => frames_of_drain h hsplit hlive hr, ?_, nodup_ids_content,
      fun id => Table.mem_keys_iff, ?_⟩
    · exact Table.size_eq_length_keys _
    · rw [content_snoc]
      rfl

/-- Of two that are let in one hangs up before the drain, and a third is refused. One more comes, and
is removed before the next drain. -/
def closingTime : List Event :=
  [.register (guest "a" 0), .register (guest "b" 1), .register (guest "c" 2), .hangUp 0,
    .drain CloseCode.away "restart", .register (guest "d" 3), .remove "d",
    .drain CloseCode.away "again"]

def fourRooms : Mailroom := ⟨List.replicate 4 ⟨true, []⟩⟩

/-- Only who is still there is told. -/
theorem drains_account_for_all_closing :
    Apart closingTime ∧ puts 2 fourRooms closingTime 1 = [.closing CloseCode.away "restart"] ∧
      puts 2 fourRooms closingTime 2 = [] ∧ puts 2 fourRooms closingTime 3 = [] ∧
      total admitted 2 fourRooms closingTime = 3 ∧
      total removed 2 fourRooms closingTime + total drained 2 fourRooms closingTime +
        (content 2 fourRooms closingTime).size = 3 := by
  have hapart : Apart closingTime := ⟨by decide, by decide⟩
  obtain ⟨-, hclosed, hrefused, hremoved, -, htotal⟩ :=
    drains_account_for_all 2 fourRooms hapart
  have hadmitted : total admitted 2 fourRooms closingTime = 3 := by decide
  refine ⟨hapart, ?_, ?_, ?_, hadmitted, htotal ▸ hadmitted⟩
  · have htold : (content 2 fourRooms (closingTime.take 4)).get? "b" = some (guest "b" 1) ∧
        (after 2 fourRooms (closingTime.take 4)).2.isReceiving 1 = true := by decide
    refine (hclosed (guest "b" 1) _ (by simp [closingTime])).mpr ?_
    exact ⟨closingTime.take 4, _, _, closingTime.drop 5, rfl, rfl, htold.1, htold.2⟩
  · have hfull : ¬(content 2 fourRooms (closingTime.take 2)).Admits (guest "c" 2) := by
      rw [admits_iff]
      decide
    exact hrefused (closingTime.take 2) (guest "c" 2) (closingTime.drop 3) rfl hfull
  · exact hremoved (closingTime.take 5) (guest "d" 3) [] (closingTime.drop 7) rfl
      fun _ _ => List.not_mem_nil

end SocketGateway.Registry
