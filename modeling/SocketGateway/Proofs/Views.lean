import SocketGateway.Proofs.Drains

/-!
# Views of a registry

A registry is asked for its ids, for the ids of one namespace, and for the number of connections in each
namespace. These answers are read off the connections and not off the ids under which they stand, so they
agree because every connection stands under its own id, whatever came, went, moved to another namespace
or was drained. The counts come of going through the connections one by one, and it does not matter in
which order.
-/

namespace SocketGateway

namespace Table

variable {κ : Type} [DecidableEq κ] {t : Table κ Nat} {k : κ} {v : Nat}

/-- A number that is written takes the place of the one that was there. -/
theorem sum_values_insert :
    (t.insert k v).values.sum + (t.find? k).getD 0 = t.values.sum + v := by
  obtain ⟨es⟩ := t
  unfold values insert find?
  induction es with
  | nil => simp [put, lookup]
  | cons e es ih =>
      obtain ⟨j, w⟩ := e
      by_cases hj : j = k
      · simp only [put, lookup, if_pos hj, List.map_cons, List.sum_cons, Option.getD_some]
        omega
      · simp only [put, lookup, if_neg hj, List.map_cons, List.sum_cons] at ih ⊢
        omega

end Table

namespace Registry

open SocketGateway.Wire (CloseCode)

variable {counts : Table Namespace Nat} {nss nss' : List Namespace} {ns ns' : Namespace}
  {limit : Nat} {m : Mailroom} {es : List Event} {r : Registry} {id : String}

/-! ## Counting -/

/-- The number of times that each namespace is in a list, found by going through it. -/
def tally (nss : List Namespace) : Table Namespace Nat := nss.foldl countOne Table.empty

/-- **A table counts a list of namespaces**: those of the list have one entry each, of how often they are
in it, and no others have any; so the numbers add up to how many there are in all. -/
structure Counts (counts : Table Namespace Nat) (nss : List Namespace) : Prop where
  nodup : counts.keys.Nodup
  find : ∀ ns, counts.find? ns = if nss.count ns = 0 then none else some (nss.count ns)
  total : counts.values.sum = nss.length

/-- One more namespace is one more in its own entry. -/
theorem Counts.one (h : Counts counts nss) : Counts (countOne counts ns) (nss ++ [ns]) where
  nodup := Table.nodup_keys_insert h.nodup
  find := by
    intro n
    rw [countOne, Table.find?_insert, List.count_append, List.count_singleton]
    by_cases hn : ns = n
    · subst hn
      rw [if_pos rfl, h.find]
      split
      · rename_i hnone
        simp [hnone]
      · simp
    · simp [hn, h.find]
  total := by
    have hone : (countOne counts ns).values.sum + (counts.find? ns).getD 0 =
        counts.values.sum + ((counts.find? ns).getD 0 + 1) := Table.sum_values_insert
    rw [List.length_append, List.length_singleton, ← h.total]
    omega

theorem counts_tally : Counts (tally nss) nss := by
  induction nss using List.reverseRecOn with
  | nil => exact ⟨List.nodup_nil, fun _ => rfl, rfl⟩
  | append_singleton nss ns ih =>
      rw [tally, List.foldl_append]
      exact ih.one

/-- The order of counting does not matter. -/
theorem find?_tally_of_perm (h : nss.Perm nss') : (tally nss).find? ns = (tally nss').find? ns := by
  rw [counts_tally.find, counts_tally.find, h.count_eq]

/-! ## Counts and lists -/

def joined (r : Registry) : List Namespace := r.connections.values.map (·.ns)

theorem countByNamespace_eq : r.countByNamespace = tally r.joined :=
  List.foldl_map.symm

theorem length_inNamespace : (r.inNamespace ns).length = r.joined.count ns := by
  rw [inNamespace, List.length_map, joined, List.count, List.countP_map,
    List.countP_eq_length_filter]
  rfl

/-- **A namespace is counted exactly if somebody joined it**, and the number is that of its ids. -/
theorem find?_countByNamespace_eq_some_iff {k : Nat} : r.countByNamespace.find? ns = some k ↔
    r.inNamespace ns ≠ [] ∧ k = (r.inNamespace ns).length := by
  have hnonempty : r.inNamespace ns ≠ [] ↔ ¬r.joined.count ns = 0 := by
    rw [← length_inNamespace, List.length_eq_zero_iff]
  rw [countByNamespace_eq, counts_tally.find, hnonempty, length_inNamespace]
  split
  · rename_i hnone
    simp [hnone]
  · rename_i hsome
    simp [hsome, eq_comm]

theorem mem_keys_countByNamespace_iff :
    ns ∈ r.countByNamespace.keys ↔ r.inNamespace ns ≠ [] := by
  rw [Table.mem_keys_iff, Table.contains, Option.isSome_iff_exists]
  constructor
  · rintro ⟨k, hk⟩
    exact (find?_countByNamespace_eq_some_iff.mp hk).1
  · intro h
    exact ⟨_, find?_countByNamespace_eq_some_iff.mpr ⟨h, rfl⟩⟩

theorem nodup_keys_countByNamespace : r.countByNamespace.keys.Nodup := by
  rw [countByNamespace_eq]
  exact counts_tally.nodup

theorem sum_values_countByNamespace : r.countByNamespace.values.sum = r.size := by
  rw [countByNamespace_eq, counts_tally.total, joined, List.length_map]
  exact List.length_map _

/-! ## Lists and ids -/

/-- **Every connection stands under its own id.** -/
theorem map_id_values_content :
    (content limit m es).connections.values.map (·.id) = (content limit m es).ids := by
  rw [Table.values, List.map_map, ids, Table.keys]
  apply List.map_congr_left
  intro e he
  exact id_of_get?_content (Table.find?_of_mem_entries nodup_ids_content he)

theorem nodup_inNamespace : ((content limit m es).inNamespace ns).Nodup := by
  have hsublist : ((content limit m es).inNamespace ns).Sublist
      ((content limit m es).connections.values.map (·.id)) := List.filter_sublist.map _
  rw [map_id_values_content] at hsublist
  exact hsublist.nodup nodup_ids_content

/-- An id is listed for the namespace that its connection joined. -/
theorem mem_inNamespace_iff : id ∈ (content limit m es).inNamespace ns ↔
    ∃ c, (content limit m es).get? id = some c ∧ c.ns = ns := by
  unfold inNamespace
  constructor
  · intro h
    obtain ⟨c, hc, rfl⟩ := List.mem_map.mp h
    obtain ⟨hmem, hns⟩ := List.mem_filter.mp hc
    exact ⟨c, mem_values_content_iff.mp hmem, of_decide_eq_true hns⟩
  · rintro ⟨c, hget, hns⟩
    have hid : c.id = id := id_of_get?_content hget
    subst hid
    apply List.mem_map_of_mem
    exact List.mem_filter.mpr ⟨mem_values_content_iff.mpr hget, decide_eq_true hns⟩

/-- No id is listed for two namespaces. -/
theorem disjoint_inNamespace (h : ns ≠ ns') :
    ((content limit m es).inNamespace ns).Disjoint ((content limit m es).inNamespace ns') := by
  intro id hid hid'
  obtain ⟨c, hc, hns⟩ := mem_inNamespace_iff.mp hid
  obtain ⟨c', hc', hns'⟩ := mem_inNamespace_iff.mp hid'
  have hsame : c = c' := Option.some.inj (hc.symm.trans hc')
  apply h
  rw [← hns, ← hns', hsame]

theorem mem_ids_iff_get? :
    id ∈ (content limit m es).ids ↔ ∃ c, (content limit m es).get? id = some c := by
  rw [ids, Table.mem_keys_iff, Table.contains, Option.isSome_iff_exists]
  rfl

theorem mem_ids_iff_inNamespace :
    id ∈ (content limit m es).ids ↔ ∃ ns, id ∈ (content limit m es).inNamespace ns := by
  rw [mem_ids_iff_get?]
  constructor
  · rintro ⟨c, hc⟩
    exact ⟨c.ns, mem_inNamespace_iff.mpr ⟨c, hc, rfl⟩⟩
  · rintro ⟨ns, hid⟩
    obtain ⟨c, hc, -⟩ := mem_inNamespace_iff.mp hid
    exact ⟨c, hc⟩

/-- **The lists of the namespaces that are counted, one behind the other, are the ids.** -/
theorem flatMap_inNamespace_perm :
    ((content limit m es).countByNamespace.keys.flatMap (content limit m es).inNamespace).Perm
      (content limit m es).ids := by
  have hlists : ((content limit m es).countByNamespace.keys.flatMap
      (content limit m es).inNamespace).Nodup := by
    rw [List.nodup_flatMap]
    exact ⟨fun ns _ => nodup_inNamespace,
      nodup_keys_countByNamespace.imp fun h => disjoint_inNamespace h⟩
  apply (List.perm_ext_iff_of_nodup hlists nodup_ids_content).mpr
  intro id
  rw [List.mem_flatMap, mem_ids_iff_inNamespace]
  constructor
  · rintro ⟨ns, -, hid⟩
    exact ⟨ns, hid⟩
  · rintro ⟨ns, hid⟩
    exact ⟨ns, mem_keys_countByNamespace_iff.mpr (List.ne_nil_of_mem hid), hid⟩

/-! ## The main result -/

/-- **The views of a registry agree**, with whatever limit and mailboxes it begins, and whatever comes,
goes, is replaced and is drained.

* Under each id that is there stands a connection of that id.
* The ids of a namespace are listed once each, and they are those whose connection joined it.
* No id is listed for two namespaces, and every id is listed for one. The lists of the namespaces that
  are counted are all ids together, each of them once.
* A namespace is counted, once, exactly if its list is not empty, and the number is the length of the
  list. The numbers add up to how many are there.
* Whoever counts the connections in another order finds the same. -/
theorem views_agree (limit : Nat) (m : Mailroom) (es : List Event) :
    (∀ id, (content limit m es).contains id = true →
      ∃ c, (content limit m es).get? id = some c ∧ c.id = id) ∧
    (∀ ns, ((content limit m es).inNamespace ns).Nodup) ∧
    (∀ ns id, id ∈ (content limit m es).inNamespace ns ↔
      ∃ c, (content limit m es).get? id = some c ∧ c.ns = ns) ∧
    (∀ ns ns', ns ≠ ns' →
      ((content limit m es).inNamespace ns).Disjoint ((content limit m es).inNamespace ns')) ∧
    (∀ id, id ∈ (content limit m es).ids ↔ ∃ ns, id ∈ (content limit m es).inNamespace ns) ∧
    ((content limit m es).countByNamespace.keys.flatMap (content limit m es).inNamespace).Perm
      (content limit m es).ids ∧
    (content limit m es).countByNamespace.keys.Nodup ∧
    (∀ ns k, (content limit m es).countByNamespace.find? ns = some k ↔
      (content limit m es).inNamespace ns ≠ [] ∧
        k = ((content limit m es).inNamespace ns).length) ∧
    (content limit m es).countByNamespace.values.sum = (content limit m es).size ∧
    ∀ nss : List Namespace, nss.Perm (content limit m es).joined →
      ∀ ns, (tally nss).find? ns = (content limit m es).countByNamespace.find? ns := by
  refine ⟨?_, fun ns => nodup_inNamespace, fun ns id => mem_inNamespace_iff,
    fun ns ns' => disjoint_inNamespace, fun id => mem_ids_iff_inNamespace, flatMap_inNamespace_perm,
    nodup_keys_countByNamespace, fun ns k => find?_countByNamespace_eq_some_iff,
    sum_values_countByNamespace, ?_⟩
  · intro id hlive
    obtain ⟨c, hget⟩ := Option.isSome_iff_exists.mp hlive
    exact ⟨c, hget, id_of_get?_content hget⟩
  · intro nss hperm ns
    rw [countByNamespace_eq, find?_tally_of_perm hperm]

/-- One comes and is drained. It comes again and a second one with it, and it moves to another namespace
under its id; a third one comes, and a fourth is refused. When the third is removed the second one moves
as well, and the third comes again. -/
def moving : List Event :=
  [.register (guest "a" 0), .drain CloseCode.away "restart", .register (guest "a" 1),
    .register (guest "b" 2), .register ⟨"a", ⟨"/admin"⟩, none, 3⟩, .register (guest "c" 4),
    .register (guest "d" 5), .remove "c", .register ⟨"b", ⟨"/admin"⟩, none, 6⟩,
    .register (guest "c" 7)]

/-- Who moved is listed where it went, and nowhere else; where two are now two are counted, from
whichever end, and where nobody is nothing is counted. -/
theorem views_agree_moving :
    (content 3 .empty moving).contains "a" = true ∧
    (∃ c, (content 3 .empty moving).get? "a" = some c ∧ c.id = "a") ∧
    "a" ∈ (content 3 .empty moving).inNamespace ⟨"/admin"⟩ ∧
    ((content 3 .empty moving).inNamespace ⟨"/admin"⟩).Disjoint
      ((content 3 .empty moving).inNamespace .root) ∧
    (content 3 .empty moving).countByNamespace.find? ⟨"/admin"⟩ = some 2 ∧
    (content 3 .empty moving).countByNamespace.find? ⟨"/ops"⟩ = none ∧
    (content 3 .empty moving).countByNamespace.values.sum = 3 ∧
    (tally (content 3 .empty moving).joined.reverse).find? ⟨"/admin"⟩ = some 2 := by
  obtain ⟨hown, -, hlisted, hdisjoint, -, -, -, hcounted, htotal, horder⟩ :=
    views_agree 3 .empty moving
  have hlive : (content 3 .empty moving).contains "a" = true := by decide
  have htwo : (content 3 .empty moving).countByNamespace.find? ⟨"/admin"⟩ = some 2 :=
    (hcounted _ _).mpr ⟨by decide, by decide⟩
  refine ⟨hlive, hown "a" hlive, ?_, hdisjoint _ _ (by decide), htwo, ?_, ?_, ?_⟩
  · exact (hlisted _ _).mpr ⟨⟨"a", ⟨"/admin"⟩, none, 3⟩, by decide, rfl⟩
  · rw [Option.eq_none_iff_forall_not_mem]
    intro k hk
    exact ((hcounted _ _).mp hk).1 (by decide)
  · rw [htotal]
    decide
  · rw [horder _ (List.reverse_perm _)]
    exact htwo

end Registry

end SocketGateway
