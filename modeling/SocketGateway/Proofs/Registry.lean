import SocketGateway.Proofs.Mailroom
import SocketGateway.Registry
import SocketGateway.Session.Identity

/-!
# The registry under its operations

A registry is seen through `get?`: every operation is described by what it does to the connection
of every id. A drain leaves nothing to be found, and it reaches the mailbox of every connection
that could be found before.
-/

namespace SocketGateway

open SocketGateway.Wire (CloseCode Frame)

/-! ## Ids -/

/-- **Ids tell connections apart.** The digits of an id are those of its number. -/
theorem Identity.ofNumber_injective {m n : Nat} (h : ofNumber m = ofNumber n) : m = n := by
  have hread (n : Nat) : Nat.ofDigitChars 10 (digits n) 0 = n := by
    simp [digits, Nat.ofDigitChars_append]
  have hdigits : digits m = digits n := String.ofList_injective (String.append_right_inj _ |>.mp h)
  rw [← hread m, hdigits, hread]

namespace Table

variable {κ α : Type} [DecidableEq κ] {t : Table κ α} {k : κ} {v : α}

/-! ## Looking up -/

theorem mem_values_of_find? (h : t.find? k = some v) : v ∈ t.values := by
  obtain ⟨es⟩ := t
  induction es with
  | nil => cases h
  | cons e es ih =>
      obtain ⟨j, w⟩ := e
      simp only [find?, lookup] at h
      split at h
      · cases h
        exact List.mem_cons_self
      · exact List.mem_cons_of_mem _ (ih h)

theorem find?_of_mem_entries (hkeys : t.keys.Nodup) (h : (k, v) ∈ t.entries) :
    t.find? k = some v := by
  obtain ⟨es⟩ := t
  unfold find?
  induction es with
  | nil => cases h
  | cons e es ih =>
      obtain ⟨i, w⟩ := e
      obtain ⟨hfirst, hrest⟩ := List.nodup_cons.mp hkeys
      rcases List.mem_cons.mp h with heq | h
      · cases heq
        simp [lookup]
      · have hne : i ≠ k := by
          rintro rfl
          exact hfirst (List.mem_map.mpr ⟨(i, v), h, rfl⟩)
        simp only [lookup, if_neg hne]
        exact ih hrest h

/-- A table in which no key can be found has no entries. -/
theorem size_eq_zero_of_find? (h : ∀ k, t.find? k = none) : t.size = 0 := by
  unfold size
  cases hes : t.entries with
  | nil => rfl
  | cons e es =>
      have hfirst := h e.1
      simp [find?, hes, lookup] at hfirst

/-! ## Keys -/

theorem mem_keys_iff : k ∈ t.keys ↔ t.contains k = true := by
  obtain ⟨es⟩ := t
  unfold keys contains find?
  induction es with
  | nil => simp [lookup]
  | cons e es ih =>
      obtain ⟨j, w⟩ := e
      by_cases hj : j = k
      · simp [lookup, hj]
      · simpa [lookup, hj, Ne.symm hj] using ih

/-- A new key comes last; one that is present stays where it is. -/
theorem keys_insert : (t.insert k v).keys = if k ∈ t.keys then t.keys else t.keys ++ [k] := by
  obtain ⟨es⟩ := t
  unfold keys insert
  induction es with
  | nil => rfl
  | cons e es ih =>
      obtain ⟨j, w⟩ := e
      by_cases hj : j = k
      · simp [put, hj]
      · simp only [put, if_neg hj, List.map_cons, List.mem_cons, Ne.symm hj, false_or]
        rw [ih]
        split <;> rfl

theorem keys_erase : (t.erase k).keys = t.keys.filter fun j => j ≠ k := by
  rw [keys, keys, List.filter_map]
  rfl

/-- To erase a key that is not there changes nothing. -/
theorem erase_of_contains_eq_false (h : t.contains k = false) : t.erase k = t := by
  obtain ⟨es⟩ := t
  have habsent : k ∉ keys ⟨es⟩ := by
    rw [mem_keys_iff, h]
    exact Bool.false_ne_true
  unfold erase
  congr 1
  rw [List.filter_eq_self]
  intro e he
  refine decide_eq_true fun hek => habsent ?_
  exact hek ▸ List.mem_map_of_mem he

theorem nodup_keys_insert (h : t.keys.Nodup) : (t.insert k v).keys.Nodup := by
  rw [keys_insert]
  split
  · exact h
  · rename_i hnew
    refine List.nodup_append.mpr ⟨h, List.pairwise_singleton _ k, fun a ha b hb => ?_⟩
    rw [List.mem_singleton.mp hb]
    exact ne_of_mem_of_not_mem ha hnew

theorem nodup_keys_erase (h : t.keys.Nodup) : (t.erase k).keys.Nodup := by
  rw [keys_erase]
  exact h.filter _

theorem size_insert_of_contains_eq_false (h : t.contains k = false) :
    (t.insert k v).size = t.size + 1 := by
  have habsent : k ∉ t.keys := by
    rw [mem_keys_iff, h]
    exact Bool.false_ne_true
  rw [size_eq_length_keys, size_eq_length_keys, keys_insert, if_neg habsent, List.length_append]
  rfl

theorem size_erase_of_contains (hkeys : t.keys.Nodup) (h : t.contains k = true) :
    (t.erase k).size + 1 = t.size := by
  have hmem : k ∈ t.keys := mem_keys_iff.mpr h
  have herase : t.keys.erase k = t.keys.filter fun j => j ≠ k := by
    rw [hkeys.erase_eq_filter]
    refine List.filter_congr fun j _ => ?_
    rw [bne, decide_not]
    rfl
  have hpos : 0 < t.keys.length := List.length_pos_of_mem hmem
  rw [size_eq_length_keys, size_eq_length_keys, keys_erase, ← herase, List.length_erase_of_mem hmem]
  omega

theorem size_insert_le : (t.insert k v).size ≤ t.size + 1 := by
  rw [size_eq_length_keys, size_eq_length_keys, keys_insert]
  split
  · exact Nat.le_succ _
  · rw [List.length_append]
    exact Nat.le_refl _

/-- One value at most is new after an insertion. -/
theorem countP_values_insert_le {p : α → Bool} :
    (t.insert k v).values.countP p ≤ t.values.countP p + if p v = true then 1 else 0 := by
  obtain ⟨es⟩ := t
  unfold values insert
  induction es with
  | nil => simp [put, List.countP_cons]
  | cons e es ih =>
      simp only [put]
      split
      · simp only [List.map_cons, List.countP_cons]
        omega
      · simp only [List.map_cons, List.countP_cons] at ih ⊢
        omega

theorem values_erase_sublist : (t.erase k).values.Sublist t.values :=
  (List.filter_sublist (l := t.entries)).map _

theorem size_erase_le : (t.erase k).size ≤ t.size := List.length_filter_le _ _

end Table

namespace Registry

variable {r r' : Registry} {c : Connection} {id j : String}

/-! ## Single operations -/

theorem contains_eq : r.contains id = (r.get? id).isSome := rfl

@[simp] theorem get?_withLimit {limit : Nat} : (withLimit limit).get? id = none := rfl

theorem get?_register (h : r.register c = .ok r') :
    r'.get? j = if c.id = j then some c else r.get? j := by
  unfold register at h
  split at h
  · cases h
  · cases h
    exact Table.find?_insert _ _ _ _

theorem get?_remove : (r.remove id).2.get? j = if id = j then none else r.get? j :=
  Table.find?_erase _ _ _

/-! ## Draining -/

variable {m : Mailroom} {code : CloseCode} {reason : String} {cs : List Connection}

theorem closeAll_cons : closeAll code reason (c :: cs) m =
    closeAll code reason cs (m.post c.mailbox (.closing code reason)).2 := rfl

theorem grows_closeAll : m.Grows (closeAll code reason cs m) := by
  induction cs generalizing m with
  | nil => exact .refl m
  | cons c cs ih => exact Mailroom.grows_post.trans ih

theorem next_closeAll : (closeAll code reason cs m).next = m.next := by
  induction cs generalizing m with
  | nil => rfl
  | cons c cs ih => rw [closeAll_cons, ih, Mailroom.next_post]

/-- What a drain puts into a mailbox: nothing if nobody takes frames out of it, and else a close
frame behind those that are there, for every connection with that mailbox. -/
theorem frames_closeAll {i : MailboxId} : (closeAll code reason cs m).frames i = m.frames i ++
    if m.isReceiving i = true then (cs.filter (·.mailbox = i)).map fun _ => .closing code reason
    else [] := by
  induction cs generalizing m with
  | nil => simp [closeAll]
  | cons c cs ih =>
      rw [closeAll_cons, ih, Mailroom.isReceiving_post, Mailroom.frames_post]
      by_cases hi : c.mailbox = i
      · subst hi
        by_cases hr : m.isReceiving c.mailbox = true <;> simp [hr]
      · simp [hi]

/-- Whoever still takes frames out of the mailbox of a drained connection will find the close
frame in it. -/
theorem mem_frames_closeAll (hc : c ∈ cs) (hr : m.isReceiving c.mailbox = true) :
    .closing code reason ∈ (closeAll code reason cs m).frames c.mailbox := by
  induction cs generalizing m with
  | nil => cases hc
  | cons d cs ih =>
      rw [closeAll_cons]
      rcases List.mem_cons.mp hc with rfl | hc
      · exact grows_closeAll.mem (Mailroom.mem_frames_post hr)
      · exact ih hc (Mailroom.grows_post.receiving _ hr)

end Registry

end SocketGateway
