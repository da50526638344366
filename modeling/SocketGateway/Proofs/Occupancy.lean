import Mathlib.Data.List.Induction
import SocketGateway.Proofs.Registry

/-!
# Occupancy of a registry

Who is in a registry can be read off its history. A connection that was taken when it came is there
until its id is removed, or everybody is; and under each id there is the one that was taken last. A
connection that is refused, or an id that is removed without being there, leaves no trace. What the
limit allows is never exceeded.
-/

namespace SocketGateway.Registry

open SocketGateway.Wire (CloseCode)

/-! ## Histories -/

/-- What can happen to a registry and the mailboxes of its connections: a connection comes, an id is
removed, everybody is asked to leave, or nobody takes frames out of a mailbox any more. -/
inductive Event where
  | register (c : Connection)
  | remove (id : String)
  | drain (code : CloseCode) (reason : String)
  | hangUp (mailbox : MailboxId)

def undergo (s : Registry × Mailroom) : Event → Registry × Mailroom
  | .register c =>
    match s.1.register c with
    | .ok r => (r, s.2)
    | .error _ => s
  | .remove id => ((s.1.remove id).2, s.2)
  | .drain code reason => (s.1.drain s.2 code reason).2
  | .hangUp i => (s.1, s.2.hangUp i)

def after (limit : Nat) (m : Mailroom) (es : List Event) : Registry × Mailroom :=
  es.foldl undergo (withLimit limit, m)

def content (limit : Nat) (m : Mailroom) (es : List Event) : Registry := (after limit m es).1

/-- Whether a registry takes a connection. -/
def Admits (r : Registry) (c : Connection) : Prop := ∃ r', r.register c = .ok r'

def Event.spares (id : String) : Event → Bool
  | .remove j => j ≠ id
  | .drain .. => false
  | _ => true

/-- **A connection that came has not been removed**: it was taken at its time, and no event since
has removed its id. -/
structure Stays (limit : Nat) (m : Mailroom) (before : List Event) (c : Connection)
    (since : List Event) : Prop where
  admitted : (content limit m before).Admits c
  spared : ∀ e ∈ since, e.spares c.id = true

/-- **It has not been replaced either**: no connection of its id was taken since. -/
structure StaysLast (limit : Nat) (m : Mailroom) (before : List Event) (c : Connection)
    (since : List Event) : Prop extends Stays limit m before c since where
  last : ∀ between d rest, since = between ++ .register d :: rest → d.id = c.id →
    ¬(content limit m (before ++ .register c :: between)).Admits d

variable {limit : Nat} {m : Mailroom} {es before since : List Event} {e : Event}
  {r r' : Registry} {c d : Connection} {id : String}

/-! ## Single events -/

theorem after_snoc : after limit m (es ++ [e]) = undergo (after limit m es) e :=
  List.foldl_append

theorem content_snoc : content limit m (es ++ [e]) = (undergo (after limit m es) e).1 := by
  rw [content, after_snoc]

theorem admits_iff : r.Admits c ↔ r.size < r.limit := by
  unfold Admits register
  split
  · rename_i hfull
    simp [Nat.not_lt.mpr hfull]
  · rename_i hroom
    simp [Nat.lt_of_not_le hroom]

/-- Who is refused is told the limit. -/
theorem register_eq_error_iff {error : GatewayError} :
    r.register c = .error error ↔ error = .capacityReached r.limit ∧ r.limit ≤ r.size := by
  unfold register
  split
  · rename_i hfull
    simp [hfull, eq_comm]
  · rename_i hroom
    simp [hroom]

theorem undergo_register (h : (content limit m es).register d = .ok r') :
    undergo (after limit m es) (.register d) = (r', (after limit m es).2) := by
  have hregister : (after limit m es).1.register d = .ok r' := h
  simp only [undergo, hregister]

/-- Who is refused leaves no trace. -/
theorem undergo_refused (h : ¬(content limit m es).Admits d) :
    undergo (after limit m es) (.register d) = after limit m es := by
  cases hregister : (after limit m es).1.register d with
  | ok r' => exact absurd ⟨r', hregister⟩ h
  | error e => simp only [undergo, hregister]

theorem content_snoc_refused (h : ¬(content limit m es).Admits d) :
    content limit m (es ++ [.register d]) = content limit m es := by
  rw [content_snoc, undergo_refused h]
  rfl

theorem get?_snoc_register (h : (content limit m es).Admits d) :
    (content limit m (es ++ [.register d])).get? id =
      if d.id = id then some d else (content limit m es).get? id := by
  obtain ⟨r', hregister⟩ := h
  rw [content_snoc, undergo_register hregister]
  exact get?_register hregister

theorem get?_snoc_remove {j : String} : (content limit m (es ++ [.remove j])).get? id =
    if j = id then none else (content limit m es).get? id := by
  rw [content_snoc]
  exact get?_remove

theorem get?_snoc_drain {code : CloseCode} {reason : String} :
    (content limit m (es ++ [.drain code reason])).get? id = none := by
  rw [content_snoc]
  rfl

theorem content_snoc_hangUp {i : MailboxId} :
    content limit m (es ++ [.hangUp i]) = content limit m es := by
  rw [content_snoc]
  rfl

/-! ## Reading a history -/

/-- An event of a history that has grown by one is the new one, or one of before. -/
theorem snoc_eq_split_iff {es₁ es₂ : List Event} {k : Event} : es ++ [e] = es₁ ++ k :: es₂ ↔
    (es = es₁ ∧ e = k ∧ es₂ = []) ∨ ∃ rest, es = es₁ ++ k :: rest ∧ es₂ = rest ++ [e] := by
  constructor
  · intro hsplit
    rcases List.eq_nil_or_concat es₂ with rfl | ⟨rest, x, rfl⟩
    · obtain ⟨hes, hk⟩ := List.append_inj' hsplit rfl
      exact .inl ⟨hes, List.singleton_inj.mp hk, rfl⟩
    · rw [List.concat_eq_append, ← List.cons_append, ← List.append_assoc] at hsplit
      obtain ⟨hes, hx⟩ := List.append_inj' hsplit rfl
      exact .inr ⟨rest, hes, by rw [List.concat_eq_append, hx]⟩
  · rintro (⟨rfl, rfl, rfl⟩ | ⟨rest, rfl, rfl⟩)
    · rfl
    · simp

theorem stays_nil : Stays limit m es c [] ↔ (content limit m es).Admits c :=
  ⟨fun h => h.admitted, fun h => ⟨h, fun _ he => by cases he⟩⟩

theorem staysLast_nil : StaysLast limit m es c [] ↔ (content limit m es).Admits c := by
  refine ⟨fun h => h.admitted, fun h => ⟨stays_nil.mpr h, fun between d rest hsplit => ?_⟩⟩
  simp at hsplit

theorem stays_snoc : Stays limit m before c (since ++ [e]) ↔
    Stays limit m before c since ∧ e.spares c.id = true := by
  constructor
  · rintro ⟨hadmitted, hspared⟩
    exact ⟨⟨hadmitted, fun x hx => hspared x (List.mem_append_left _ hx)⟩, hspared e (by simp)⟩
  · rintro ⟨⟨hadmitted, hspared⟩, he⟩
    refine ⟨hadmitted, fun x hx => ?_⟩
    rcases List.mem_append.mp hx with hx | hx
    · exact hspared x hx
    · exact List.mem_singleton.mp hx ▸ he

theorem staysLast_snoc : StaysLast limit m before c (since ++ [e]) ↔
    StaysLast limit m before c since ∧ e.spares c.id = true ∧
      ∀ d, e = .register d → d.id = c.id →
        ¬(content limit m (before ++ .register c :: since)).Admits d := by
  constructor
  · rintro ⟨hstays, hlast⟩
    obtain ⟨hstays, he⟩ := stays_snoc.mp hstays
    refine ⟨⟨hstays, fun between d rest hsplit => ?_⟩, he, ?_⟩
    · exact hlast between d (rest ++ [e]) (by simp [hsplit])
    · rintro d rfl
      exact hlast since d [] rfl
  · rintro ⟨⟨hstays, hlast⟩, he, hnew⟩
    refine ⟨stays_snoc.mpr ⟨hstays, he⟩, fun between d rest hsplit => ?_⟩
    rcases snoc_eq_split_iff.mp hsplit with ⟨rfl, he, -⟩ | ⟨rest, hsplit, -⟩
    · exact hnew d he
    · exact hlast between d rest hsplit

/-- **One more event**: a connection that stays is the new one, or stayed before and was spared. -/
theorem exists_stays_snoc :
    (∃ es₁ c es₂, es ++ [e] = es₁ ++ .register c :: es₂ ∧ c.id = id ∧ Stays limit m es₁ c es₂) ↔
      (∃ c, e = .register c ∧ c.id = id ∧ (content limit m es).Admits c) ∨
        (∃ es₁ c es₂, es = es₁ ++ .register c :: es₂ ∧ c.id = id ∧ Stays limit m es₁ c es₂) ∧
          e.spares id = true := by
  constructor
  · rintro ⟨es₁, c, es₂, hsplit, rfl, hstays⟩
    rcases snoc_eq_split_iff.mp hsplit with ⟨rfl, rfl, rfl⟩ | ⟨rest, rfl, rfl⟩
    · exact .inl ⟨c, rfl, rfl, stays_nil.mp hstays⟩
    · obtain ⟨hstays, he⟩ := stays_snoc.mp hstays
      exact .inr ⟨⟨es₁, c, rest, rfl, rfl, hstays⟩, he⟩
  · rintro (⟨c, rfl, rfl, hadmitted⟩ | ⟨⟨es₁, c, es₂, rfl, rfl, hstays⟩, he⟩)
    · exact ⟨es, c, [], rfl, rfl, stays_nil.mpr hadmitted⟩
    · exact ⟨es₁, c, es₂ ++ [e], by simp, rfl, stays_snoc.mpr ⟨hstays, he⟩⟩

/-- The one that was taken last is the new one, or was so before and was neither removed nor
replaced. -/
theorem exists_staysLast_snoc :
    (∃ es₁ es₂, es ++ [e] = es₁ ++ .register c :: es₂ ∧ c.id = id ∧ StaysLast limit m es₁ c es₂) ↔
      (e = .register c ∧ c.id = id ∧ (content limit m es).Admits c) ∨
        (∃ es₁ es₂, es = es₁ ++ .register c :: es₂ ∧ c.id = id ∧ StaysLast limit m es₁ c es₂) ∧
          e.spares id = true ∧
          ∀ d, e = .register d → d.id = id → ¬(content limit m es).Admits d := by
  constructor
  · rintro ⟨es₁, es₂, hsplit, rfl, hstays⟩
    rcases snoc_eq_split_iff.mp hsplit with ⟨rfl, rfl, rfl⟩ | ⟨rest, rfl, rfl⟩
    · exact .inl ⟨rfl, rfl, staysLast_nil.mp hstays⟩
    · obtain ⟨hstays, he, hnew⟩ := staysLast_snoc.mp hstays
      exact .inr ⟨⟨es₁, rest, rfl, rfl, hstays⟩, he, hnew⟩
  · rintro (⟨rfl, rfl, hadmitted⟩ | ⟨⟨es₁, es₂, rfl, rfl, hstays⟩, he, hnew⟩)
    · exact ⟨es, [], rfl, rfl, staysLast_nil.mpr hadmitted⟩
    · exact ⟨es₁, es₂ ++ [e], by simp, rfl, staysLast_snoc.mpr ⟨hstays, he, hnew⟩⟩

/-! ## Who is there -/

/-- **An id is there if a connection of it stays.** -/
theorem contains_content_iff : (content limit m es).contains id = true ↔
    ∃ es₁ c es₂, es = es₁ ++ .register c :: es₂ ∧ c.id = id ∧ Stays limit m es₁ c es₂ := by
  induction es using List.reverseRecOn with
  | nil =>
      show (none : Option Connection).isSome = true ↔ _
      simp
  | append_singleton es e ih =>
      rw [exists_stays_snoc, ← ih]
      cases e with
      | register d =>
          by_cases hadmits : (content limit m es).Admits d
          · rw [contains_eq, get?_snoc_register hadmits, contains_eq]
            by_cases hid : d.id = id
            · simp [hid, hadmits]
            · simp [hid, Event.spares]
          · rw [content_snoc_refused hadmits]
            simp [hadmits, Event.spares]
      | remove j =>
          rw [contains_eq, get?_snoc_remove, contains_eq]
          by_cases hj : j = id
          · simp [hj, Event.spares]
          · simp [hj, Event.spares]
      | drain code reason =>
          rw [contains_eq, get?_snoc_drain]
          simp [Event.spares]
      | hangUp i =>
          rw [content_snoc_hangUp]
          simp [Event.spares]

/-- **Under an id there is the connection that was taken last.** -/
theorem get?_content_eq_some_iff : (content limit m es).get? id = some c ↔
    ∃ es₁ es₂, es = es₁ ++ .register c :: es₂ ∧ c.id = id ∧ StaysLast limit m es₁ c es₂ := by
  induction es using List.reverseRecOn with
  | nil =>
      show (none : Option Connection) = some c ↔ _
      simp
  | append_singleton es e ih =>
      rw [exists_staysLast_snoc, ← ih]
      cases e with
      | register d =>
          by_cases hadmits : (content limit m es).Admits d
          · rw [get?_snoc_register hadmits]
            by_cases hid : d.id = id
            · rw [if_pos hid, Option.some_inj]
              constructor
              · rintro rfl
                exact .inl ⟨rfl, hid, hadmits⟩
              · rintro (⟨heq, -, -⟩ | ⟨-, -, hnew⟩)
                · exact Event.register.inj heq
                · exact absurd hadmits (hnew d rfl hid)
            · rw [if_neg hid]
              constructor
              · intro hget
                exact .inr ⟨hget, rfl, fun _ heq hd => absurd (Event.register.inj heq ▸ hd) hid⟩
              · rintro (⟨heq, hc, -⟩ | ⟨hget, -, -⟩)
                · exact absurd (Event.register.inj heq ▸ hc) hid
                · exact hget
          · rw [content_snoc_refused hadmits]
            constructor
            · intro hget
              exact .inr ⟨hget, rfl, fun _ heq _ => Event.register.inj heq ▸ hadmits⟩
            · rintro (⟨heq, -, hc⟩ | ⟨hget, -, -⟩)
              · exact absurd (Event.register.inj heq ▸ hc) hadmits
              · exact hget
      | remove j =>
          rw [get?_snoc_remove]
          by_cases hj : j = id
          · simp [hj, Event.spares]
          · simp [hj, Event.spares]
      | drain code reason =>
          rw [get?_snoc_drain]
          simp [Event.spares]
      | hangUp i =>
          rw [content_snoc_hangUp]
          simp [Event.spares]

theorem id_of_get?_content (h : (content limit m es).get? id = some c) : c.id = id := by
  obtain ⟨-, -, -, hid, -⟩ := get?_content_eq_some_iff.mp h
  exact hid

/-! ## How many are there -/

/-- **Induction over a history** for what is said about the registry alone. -/
theorem content_induction {P : Registry → Prop} (start : P (withLimit limit))
    (register : ∀ r c r', P r → r.register c = .ok r' → P r')
    (remove : ∀ r id, P r → P (r.remove id).2)
    (drain : ∀ r, P r → P { r with connections := Table.empty }) : P (content limit m es) := by
  induction es using List.reverseRecOn with
  | nil => exact start
  | append_singleton es e ih =>
      cases e with
      | register d =>
          by_cases hadmits : (content limit m es).Admits d
          · obtain ⟨r', hregister⟩ := hadmits
            rw [content_snoc, undergo_register hregister]
            exact register _ d r' ih hregister
          · rw [content_snoc_refused hadmits]
            exact ih
      | remove j =>
          rw [content_snoc]
          exact remove _ j ih
      | drain code reason =>
          rw [content_snoc]
          exact drain _ ih
      | hangUp i =>
          rw [content_snoc_hangUp]
          exact ih

theorem eq_insert_of_register (h : r.register c = .ok r') :
    r' = { r with connections := r.connections.insert c.id c } := by
  unfold register at h
  split at h <;> cases h
  rfl

theorem limit_content : (content limit m es).limit = limit := by
  refine content_induction (P := fun r => r.limit = limit) rfl (fun r c r' hr h => ?_)
    (fun _ _ hr => hr) fun _ hr => hr
  rw [eq_insert_of_register h]
  exact hr

/-- Each id is there once. -/
theorem nodup_ids_content : (content limit m es).ids.Nodup := by
  refine content_induction (P := fun r => r.ids.Nodup) List.nodup_nil (fun r c r' hr h => ?_)
    (fun _ _ hr => Table.nodup_keys_erase hr) fun _ _ => List.nodup_nil
  rw [eq_insert_of_register h]
  exact Table.nodup_keys_insert hr

/-- **The limit is kept.** -/
theorem size_content_le : (content limit m es).size ≤ limit := by
  suffices hbounded : (content limit m es).limit = limit ∧ (content limit m es).size ≤ limit from
    hbounded.2
  refine content_induction (P := fun r => r.limit = limit ∧ r.size ≤ limit) ⟨rfl, Nat.zero_le _⟩
    (fun r c r' hr h => ?_) (fun _ _ hr => ⟨hr.1, Nat.le_trans Table.size_erase_le hr.2⟩)
    fun _ hr => ⟨hr.1, Nat.zero_le _⟩
  have hroom : r.size < limit := hr.1 ▸ admits_iff.mp ⟨r', h⟩
  rw [eq_insert_of_register h]
  exact ⟨hr.1, Nat.le_trans Table.size_insert_le hroom⟩

/-- To remove an id that is not there gives nothing and changes nothing. -/
theorem remove_of_contains_eq_false (h : r.contains id = false) : r.remove id = (none, r) := by
  have hnone : r.connections.find? id = none := by
    rw [← Option.isNone_iff_eq_none]
    exact Option.isSome_eq_false_iff.mp h
  rw [remove, hnone, Table.erase_of_contains_eq_false h]

/-- A registry is empty if no id is there. -/
theorem isEmpty_iff : r.isEmpty = true ↔ ∀ id, r.contains id = false := by
  rw [isEmpty, beq_iff_eq, size, Table.size_eq_length_keys, List.length_eq_zero_iff,
    List.eq_nil_iff_forall_not_mem]
  refine forall_congr' fun id => ?_
  rw [Table.mem_keys_iff, Bool.not_eq_true]
  rfl

/-- **A registry holds what its history says**, with whatever limit and mailboxes it begins, and
whatever comes, goes and is drained.

* An id is there exactly if a connection of it was taken and has not been removed since, and it
  leads to the one that was taken last.
* The ids are those that are there, each of them once, and they are counted; without any the
  registry is empty.
* A connection is refused exactly if as many ids are there as the limit allows, and is told the
  limit; the history goes on as if it had not come.
* To remove an id that is not there gives nothing and leaves no trace.
* There are never more than the limit allows. -/
theorem content_follows_history (limit : Nat) (m : Mailroom) (es : List Event) :
    (∀ id, (content limit m es).contains id = true ↔
      ∃ es₁ c es₂, es = es₁ ++ .register c :: es₂ ∧ c.id = id ∧ Stays limit m es₁ c es₂) ∧
    (∀ id c, (content limit m es).get? id = some c ↔
      ∃ es₁ es₂, es = es₁ ++ .register c :: es₂ ∧ c.id = id ∧ StaysLast limit m es₁ c es₂) ∧
    (∀ id, id ∈ (content limit m es).ids ↔ (content limit m es).contains id = true) ∧
    (content limit m es).ids.Nodup ∧
    (content limit m es).size = (content limit m es).ids.length ∧
    ((content limit m es).isEmpty = true ↔ ∀ id, (content limit m es).contains id = false) ∧
    (∀ c error, (content limit m es).register c = .error error ↔
      error = .capacityReached limit ∧ limit ≤ (content limit m es).ids.length) ∧
    (∀ c error, (content limit m es).register c = .error error →
      after limit m (es ++ [.register c]) = after limit m es) ∧
    (∀ id, (content limit m es).contains id = false →
      ((content limit m es).remove id).1 = none ∧
        after limit m (es ++ [.remove id]) = after limit m es) ∧
    (content limit m es).ids.length ≤ limit := by
  have hsize : (content limit m es).size = (content limit m es).ids.length :=
    Table.size_eq_length_keys _
  refine ⟨fun id => contains_content_iff, fun id c => get?_content_eq_some_iff,
    fun id => Table.mem_keys_iff, nodup_ids_content, hsize, isEmpty_iff, fun c error => ?_,
    fun c error hrefused => ?_, fun id habsent => ⟨?_, ?_⟩, hsize ▸ size_content_le⟩
  · rw [register_eq_error_iff, limit_content, hsize]
  · have hrefuses : ¬(content limit m es).Admits c := by
      rintro ⟨r', hadmitted⟩
      rw [hadmitted] at hrefused
      cases hrefused
    rw [after_snoc, undergo_refused hrefuses]
  · rw [remove_of_contains_eq_false habsent]
  · have hsame : ((after limit m es).1.remove id).2 = (after limit m es).1 := by
      rw [remove_of_contains_eq_false (r := (after limit m es).1) habsent]
    rw [after_snoc, undergo, hsame]

def guest (id : String) (mailbox : MailboxId) : Connection := ⟨id, .root, none, mailbox⟩

/-- There is room for two, and a third is refused. When everybody has been asked to leave, the
first id is removed once more, comes again and is replaced, and the second one comes again too. -/
def visits : List Event :=
  [.register (guest "a" 0), .register (guest "b" 1), .register (guest "c" 2),
    .drain CloseCode.away "restart", .remove "a", .register (guest "a" 3), .register (guest "a" 4),
    .register (guest "b" 5)]

/-- The first id is there because it came again, and leads to the one that replaced it. The one that
was refused is not there, so nothing happens when it is removed; and it would be refused again. -/
theorem content_follows_history_again :
    (content 2 .empty visits).contains "a" = true ∧
    (∃ es₁ c es₂, visits = es₁ ++ .register c :: es₂ ∧ c.id = "a" ∧ Stays 2 .empty es₁ c es₂) ∧
    (content 2 .empty visits).get? "a" = some (guest "a" 4) ∧
    (∃ es₁ es₂, visits = es₁ ++ .register (guest "a" 4) :: es₂ ∧ (guest "a" 4).id = "a" ∧
      StaysLast 2 .empty es₁ (guest "a" 4) es₂) ∧
    (content 2 .empty visits).register (guest "c" 6) = .error (.capacityReached 2) ∧
    after 2 .empty (visits ++ [.register (guest "c" 6)]) = after 2 .empty visits ∧
    (content 2 .empty visits).contains "c" = false ∧
    ((content 2 .empty visits).remove "c").1 = none ∧
    after 2 .empty (visits ++ [.remove "c"]) = after 2 .empty visits := by
  obtain ⟨hlive, hlast, -, -, -, -, hrefusal, hrefused, habsent, -⟩ :=
    content_follows_history 2 .empty visits
  have ha : (content 2 .empty visits).get? "a" = some (guest "a" 4) := by decide
  have hcontains : (content 2 .empty visits).contains "a" = true := by
    rw [contains_eq, ha]
    rfl
  have hc : (content 2 .empty visits).contains "c" = false := by decide
  have hfull : (content 2 .empty visits).register (guest "c" 6) = .error (.capacityReached 2) :=
    (hrefusal _ _).mpr ⟨rfl, by decide⟩
  exact ⟨hcontains, (hlive "a").mp hcontains, ha, (hlast "a" _).mp ha, hfull, hrefused _ _ hfull,
    hc, (habsent "c" hc).1, (habsent "c" hc).2⟩

end SocketGateway.Registry
