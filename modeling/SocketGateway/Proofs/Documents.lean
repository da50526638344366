import SocketGateway.Config.Load
import SocketGateway.Proofs.Trees

/-!
# What a configuration file says

In a file that could be read no table has a key twice: neither the file itself, nor the tables right
under it. So if the keys of the file are plain names, what the tree of the file says about a setting
is the member of the table that its section is.
-/

namespace SocketGateway.Config

namespace Toml

variable {v : Value} {t t' : Members} {f : Members → Option Members} {k : String} {dotted : Bool}
  {path : List String}

def Value.IsClean (v : Value) : Prop := ∀ o ms, v = .table o ms → HasDistinctKeys ms

theorem Value.isClean_table {o : Opening} {ms : List (String × Value)} :
    (Value.table o ms).IsClean ↔ HasDistinctKeys ms := by
  constructor
  · exact fun h => h o ms rfl
  · rintro h _ _ ⟨⟩
    exact h

theorem Value.isClean_tables {elements : List (Opening × List (String × Value))} :
    (Value.tables elements).IsClean := by
  rintro _ _ ⟨⟩

structure Members.IsClean (t : Members) : Prop where
  keys : HasDistinctKeys t.2
  values : ∀ e ∈ t.2, e.2.IsClean

theorem Members.IsClean.put (h : t.IsClean) (hv : v.IsClean) :
    Members.IsClean (t.1, Table.put k v t.2) where
  keys := h.keys.put
  values e he := by
    rcases mem_put he with rfl | hold
    · exact hv
    · exact h.values e hold

theorem Members.IsClean.snoc (h : t.IsClean) (hk : Table.lookup k t.2 = none) (hv : v.IsClean) :
    Members.IsClean (t.1, t.2 ++ [(k, v)]) where
  keys := h.keys.snoc hk
  values e he := by
    rcases List.mem_append.mp he with hold | hnew
    · exact h.values e hold
    · rw [List.mem_singleton.mp hnew]
      exact hv

/-! ## Building tables -/

/-- What a change of a table must keep, so that it may be made anywhere in a document. -/
structure KeepsClean (f : Members → Option Members) : Prop where
  keys : ∀ t t', f t = some t' → HasDistinctKeys t.2 → HasDistinctKeys t'.2
  clean : ∀ t t', f t = some t' → t.IsClean → t'.IsClean

/-- A change that puts one member in a table, in place of another one or under a new key. -/
theorem keepsClean_of_member (h : ∀ t t', f t = some t' → ∃ k v, (t.IsClean → v.IsClean) ∧
    (t' = (t.1, Table.put k v t.2) ∨
      t' = (t.1, t.2 ++ [(k, v)]) ∧ Table.lookup k t.2 = none)) : KeepsClean f where
  keys t t' ht' ht := by
    obtain ⟨k, v, -, rfl | ⟨rfl, hk⟩⟩ := h t t' ht'
    · exact ht.put
    · exact ht.snoc hk
  clean t t' ht' ht := by
    obtain ⟨k, v, hv, rfl | ⟨rfl, hk⟩⟩ := h t t' ht'
    · exact ht.put (hv ht)
    · exact ht.snoc hk (hv ht)

theorem keepsClean_addKey (hv : v.IsClean) : KeepsClean (addKey dotted k v) := by
  refine keepsClean_of_member fun t t' h => ⟨k, v, fun _ => hv, .inr ?_⟩
  obtain ⟨o, ms⟩ := t
  simp only [addKey] at h
  split at h
  · cases h
  · split at h
    · cases h
    · rename_i hfree
      cases h
      exact ⟨rfl, by simpa using hfree⟩

theorem keepsClean_openTable : KeepsClean (openTable k) := by
  refine keepsClean_of_member fun t t' h => ?_
  obtain ⟨o, ms⟩ := t
  simp only [openTable] at h
  split at h
  · rename_i hnew
    cases h
    exact ⟨k, _, fun _ => Value.isClean_table.mpr hasDistinctKeys_nil, .inr ⟨rfl, hnew⟩⟩
  · rename_i inner hlookup
    cases h
    refine ⟨k, _, fun ht => Value.isClean_table.mpr ?_, .inl rfl⟩
    exact Value.isClean_table.mp (ht.values _ (mem_of_lookup hlookup))
  · cases h

theorem keepsClean_appendTable : KeepsClean (appendTable k) := by
  refine keepsClean_of_member fun t t' h => ?_
  obtain ⟨o, ms⟩ := t
  simp only [appendTable] at h
  split at h
  · rename_i hnew
    cases h
    exact ⟨k, _, fun _ => Value.isClean_tables, .inr ⟨rfl, hnew⟩⟩
  · cases h
    exact ⟨k, _, fun _ => Value.isClean_tables, .inl rfl⟩
  · cases h

/-- On the way along a path, one member of a table is replaced: by a table that was changed or that
is new, or by a list of tables. -/
theorem descend_cons (h : descend dotted f (k :: path) t = some t') :
    ∃ v, t' = (t.1, Table.put k v t.2) ∧
      ((∃ o inner t₁, (Table.lookup k t.2 = some (.table o inner) ∨ inner = []) ∧
          descend dotted f path (o, inner) = some t₁ ∧ v = .table t₁.1 t₁.2) ∨
        ∃ elements, v = .tables elements) := by
  obtain ⟨opening, ms⟩ := t
  rw [descend] at h
  split at h
  · -- the table is new
    split at h
    · rename_i o inner hnew
      cases h
      exact ⟨_, rfl, .inl ⟨_, [], (o, inner), .inr rfl, hnew, rfl⟩⟩
    · cases h
  · rename_i o inner hlookup
    split at h
    · cases h
    · split at h
      · rename_i o' inner' hchanged
        cases h
        exact ⟨_, rfl, .inl ⟨o, inner, (o', inner'), .inl hlookup, hchanged, rfl⟩⟩
      · cases h
  · -- of several tables the last one is changed
    split at h
    · cases h
    · split at h
      · cases h
        exact ⟨_, rfl, .inr ⟨_, rfl⟩⟩
      · cases h
  · cases h

/-- Whatever is changed at the end of a path, the table where the path begins has no key twice. -/
theorem distinct_of_descend (hf : KeepsClean f) (h : descend dotted f path t = some t')
    (ht : HasDistinctKeys t.2) : HasDistinctKeys t'.2 := by
  cases path with
  | nil => exact hf.keys t t' h ht
  | cons k path =>
      obtain ⟨v, rfl, -⟩ := descend_cons h
      exact ht.put

theorem KeepsClean.descend (hf : KeepsClean f) : KeepsClean (descend dotted f path) := by
  cases path with
  | nil => exact hf
  | cons k path =>
      refine keepsClean_of_member fun t t' h => ?_
      obtain ⟨v, rfl, hv⟩ := descend_cons h
      refine ⟨k, v, fun ht => ?_, .inl rfl⟩
      rcases hv with ⟨o, inner, t₁, hinner, hchanged, rfl⟩ | ⟨elements, rfl⟩
      · -- the new member is a table that the change was made in
        refine Value.isClean_table.mpr (distinct_of_descend hf hchanged ?_)
        rcases hinner with hold | rfl
        · exact Value.isClean_table.mp (ht.values _ (mem_of_lookup hold))
        · exact hasDistinctKeys_nil
      · exact Value.isClean_tables

/-! ## Reading -/

def GivesClean (item : List Char → Option (Value × List Char)) : Prop :=
  ∀ cs v rest, item cs = some (v, rest) → v.IsClean

variable {item : List Char → Option (Value × List Char)} {size fuel depth : Nat}
  {cs rest : List Char} {d d' : Document} {ks : List String}

theorem clean_of_pair? (hitem : GivesClean item) (h : pair? item size cs = some (ks, v, rest)) :
    v.IsClean := by
  unfold pair? at h
  split at h
  · obtain ⟨⟨v', rest'⟩, hv, heq⟩ := Option.map_eq_some_iff.mp h
    cases heq
    exact hitem _ _ _ hv
  · cases h

theorem keepsClean_addAt (hv : v.IsClean) : KeepsClean (addAt path k v) :=
  (keepsClean_addKey hv).descend

theorem distinct_of_members? (hitem : GivesClean item)
    (h : members? item size fuel t cs = some (t', rest)) (ht : HasDistinctKeys t.2) :
    HasDistinctKeys t'.2 := by
  induction fuel generalizing t cs with
  | zero => cases h
  | succ fuel ih =>
      rw [members?] at h
      split at h
      · cases h
        exact ht
      · split at h
        · cases h
        · rename_i ks v rest' hpair
          split at h
          · cases h
          · rename_i t₁ hadd
            have ht₁ : HasDistinctKeys t₁.2 := by
              unfold addPair? at hadd
              split at hadd
              · exact (keepsClean_addAt (clean_of_pair? hitem hpair)).keys t t₁ hadd ht
              · cases hadd
            split at h
            · exact ih h ht₁
            · cases h
              exact ht₁
            · cases h

theorem integer?_ne_table {o : Opening} {ms : List (String × Value)} :
    integer? cs ≠ some (.table o ms) := by
  have hint : ∀ neg n, int? neg n ≠ some (.table o ms) := by
    intro neg n
    cases neg <;> simp [int?]
  intro h
  unfold integer? at h
  split at h <;> obtain ⟨ds, -, hds⟩ := Option.bind_eq_some_iff.mp h <;> exact hint _ _ hds

theorem moment?_ne_table {o : Opening} {ms : List (String × Value)} :
    moment? cs ≠ some (.table o ms) := by
  intro h
  unfold moment? at h
  split at h
  · cases h
  · split at h
    · simp only [Option.bind_eq_bind, Option.bind_eq_some_iff] at h
      obtain ⟨_, -, _, -, h⟩ := h
      split at h <;> cases h
    · cases h
  · simp only [Option.bind_eq_bind, Option.bind_eq_some_iff] at h
    obtain ⟨_, -, h⟩ := h
    split at h <;> cases h

theorem float?_ne_table {o : Opening} {ms : List (String × Value)} :
    float? cs ≠ some (.table o ms) := by
  intro h
  unfold float? at h
  dsimp only at h
  split at h
  · cases h
  · split at h
    · cases h
    · simp only [Option.bind_eq_bind, Option.bind_eq_some_iff] at h
      obtain ⟨whole, -, h⟩ := h
      split at h
      all_goals
        obtain ⟨_, -, h⟩ := Option.bind_eq_some_iff.mp h
        split at h
        · cases h
        · obtain ⟨e, -, h⟩ := Option.bind_eq_some_iff.mp h
          split at h <;> cases h

theorem clean_of_scalar? (h : scalar? cs = some v) : v.IsClean := by
  rintro o ms rfl
  unfold scalar? at h
  split at h
  · cases h
  · split at h
    · cases h
    · cases hinteger : integer? cs with
      | some v =>
          rw [hinteger] at h
          cases h
          exact absurd hinteger integer?_ne_table
      | none =>
          cases hmoment : moment? cs with
          | some v =>
              rw [hinteger, hmoment] at h
              cases h
              exact absurd hmoment moment?_ne_table
          | none =>
              -- what is neither an integer nor a moment is a number with a point, if anything
              rw [hinteger, hmoment] at h
              exact absurd h float?_ne_table

/-- A value is clean if those nested in it are. -/
theorem clean_of_value? (hinner : ∀ n, depth = n + 1 → GivesClean (value? size n))
    (h : value? size depth cs = some (v, rest)) : v.IsClean := by
  unfold value? at h
  split at h
  · split at h
    · cases h
    · obtain ⟨_, -, heq⟩ := Option.map_eq_some_iff.mp h
      cases heq
      rintro _ _ ⟨⟩
  · split at h
    · cases h
    · obtain ⟨⟨t, _⟩, hmembers, heq⟩ := Option.map_eq_some_iff.mp h
      cases heq
      exact Value.isClean_table.mpr
        (distinct_of_members? (hinner _ rfl) hmembers hasDistinctKeys_nil)
  · obtain ⟨_, -, heq⟩ := Option.map_eq_some_iff.mp h
    cases heq
    rintro _ _ ⟨⟩
  · obtain ⟨_, -, heq⟩ := Option.map_eq_some_iff.mp h
    cases heq
    rintro _ _ ⟨⟩
  · split at h
    obtain ⟨_, hscalar, heq⟩ := Option.map_eq_some_iff.mp h
    cases heq
    exact clean_of_scalar? hscalar

theorem givesClean_value? : GivesClean (value? size depth) := by
  induction depth with
  | zero => exact fun cs v rest => clean_of_value? fun n hn => by cases hn
  | succ depth ih =>
      refine fun cs v rest => clean_of_value? ?_
      rintro n ⟨⟩
      exact ih

/-! ## Documents -/

theorem clean_of_openHeader {isList : Bool} (h : d.openHeader isList ks = some d')
    (hd : d.root.IsClean) : d'.root.IsClean := by
  unfold Document.openHeader at h
  split at h
  · cases h
  · obtain ⟨root, hroot, rfl⟩ := Option.map_eq_some_iff.mp h
    cases isList with
    | true => exact keepsClean_appendTable.descend.clean _ _ hroot hd
    | false => exact keepsClean_openTable.descend.clean _ _ hroot hd

theorem clean_of_header? (h : header? size d cs = some (d', rest)) (hd : d.root.IsClean) :
    d'.root.IsClean := by
  unfold header? at h
  split at h
  split at h
  · split at h
    · obtain ⟨d₁, hopen, heq⟩ := Option.map_eq_some_iff.mp h
      cases heq
      exact clean_of_openHeader hopen hd
    · obtain ⟨d₁, hopen, heq⟩ := Option.map_eq_some_iff.mp h
      cases heq
      exact clean_of_openHeader hopen hd
    · cases h
  · cases h

theorem clean_of_line? (h : line? size d cs = some (d', rest)) (hd : d.root.IsClean) :
    d'.root.IsClean := by
  unfold line? at h
  split at h
  · exact clean_of_header? h hd
  · split at h
    · cases h
    · rename_i ks v rest' hpair
      split at h
      · obtain ⟨d₁, hadd, heq⟩ := Option.map_eq_some_iff.mp h
        cases heq
        obtain ⟨root, hroot, rfl⟩ := Option.map_eq_some_iff.mp hadd
        exact (keepsClean_addAt (clean_of_pair? givesClean_value? hpair)).descend.clean _ _ hroot hd
      · cases h

theorem clean_of_lineByLine? (h : lineByLine? size fuel d cs = some d') (hd : d.root.IsClean) :
    d'.root.IsClean := by
  induction fuel generalizing d cs with
  | zero => cases h
  | succ fuel ih =>
      rw [lineByLine?] at h
      split at h
      · cases h
        exact hd
      · split at h
        · cases h
        · rename_i d₁ rest' hline
          split at h
          · cases h
          · exact ih h (clean_of_line? hline hd)

/-- **In a file that was read no key stands twice.** -/
theorem clean_of_parse? {text : String} {ms : List (String × Value)} (h : parse? text = some ms) :
    Members.IsClean (.header, ms) := by
  obtain ⟨d, hd, rfl⟩ := Option.map_eq_some_iff.mp h
  have hempty : Document.empty.root.IsClean := ⟨hasDistinctKeys_nil, fun _ he => by cases he⟩
  have hclean := clean_of_lineByLine? hd hempty
  exact ⟨hclean.keys, hclean.values⟩

end Toml

/-! ## The tree of a file -/

def placed (v : Toml.Value) : Value :=
  Value.assign (some (.file fileName)) (nodeOfToml v) Value.nil

def Toml.entry? (ms : List (String × Toml.Value)) (x : Setting) : Option Toml.Value :=
  match Table.lookup x.part ms with
  | some (.table _ inner) => Table.lookup x.field inner
  | _ => none

theorem lookup_membersOfToml {ms : List (String × Toml.Value)} {k : String} :
    Table.lookup k (membersOfToml ms) =
      (Table.lookup k ms).map fun v => (some (.file fileName), nodeOfToml v) := by
  induction ms with
  | nil => rfl
  | cons e ms ih =>
      obtain ⟨j, v⟩ := e
      rw [membersOfToml, Table.lookup, Table.lookup, ih]
      split <;> rfl

theorem map_fst_membersOfToml {ms : List (String × Toml.Value)} :
    (membersOfToml ms).map (·.1) = ms.map (·.1) := by
  induction ms with
  | nil => rfl
  | cons e ms ih =>
      obtain ⟨j, v⟩ := e
      rw [membersOfToml, List.map_cons, List.map_cons, ih]

/-- Values that are put in place one after the other, each under a key of its own, as one key sees
it. -/
theorem look_foldl {σ : Type} (look : σ → Option Value) {put : σ → String × Value → σ}
    {es : List (String × Value)} {s : σ} {k : String} (h : HasDistinctKeys es)
    (hput : ∀ s, ∀ e ∈ es, look (put s e) =
      if e.1 = k then some (Value.assign e.2.1 e.2.2 ((look s).getD Value.nil)) else look s) :
    look (es.foldl put s) =
      match Table.lookup k es with
      | some v => some (Value.assign v.1 v.2 ((look s).getD Value.nil))
      | none => look s := by
  induction es generalizing s with
  | nil => rfl
  | cons e es ih =>
      obtain ⟨hnew, hrest⟩ := List.nodup_cons.mp h
      rw [List.foldl_cons, ih hrest fun s e' he' => hput s e' (List.mem_cons_of_mem e he'),
        hput s e List.mem_cons_self]
      obtain ⟨j, v⟩ := e
      by_cases hj : j = k
      · -- the key does not come again
        have hnone : Table.lookup k es = none := by
          rw [← Option.not_isSome_iff_eq_none]
          intro hsome
          exact hnew (hj ▸ (Table.mem_keys_iff (t := ⟨es⟩)).mpr hsome)
        simp [Table.lookup, hj, hnone]
      · simp [Table.lookup, hj]

theorem assignAll_eq_foldl {ms base : List (String × Value)} : Value.assignAll ms base =
    ms.foldl (fun base e => Table.put e.1
      (Value.assign e.2.1 e.2.2 ((Table.lookup e.1 base).getD Value.nil)) base) base := by
  induction ms generalizing base with
  | nil => rfl
  | cons e ms ih =>
      rw [List.foldl_cons, ← ih]
      rfl

theorem lookup_assignAll {ms : List (String × Value)} {k : String} (h : HasDistinctKeys ms) :
    Table.lookup k (Value.assignAll ms []) =
      (Table.lookup k ms).map fun v => Value.assign v.1 v.2 Value.nil := by
  rw [assignAll_eq_foldl, look_foldl (Table.lookup k) h]
  · cases Table.lookup k ms <;> rfl
  · intro base e _
    refine (Table.find?_insert ⟨base⟩ e.1 k _).trans ?_
    by_cases hk : e.1 = k
    · rw [if_pos hk, if_pos hk, hk]
    · rw [if_neg hk, if_neg hk]
      rfl

theorem Step.exists_path (key : String) : ∃ k steps, Step.path key = .key k :: steps := by
  unfold Step.path
  dsimp only
  split
  · exact ⟨_, _, rfl⟩
  · exact ⟨_, _, rfl⟩

/-- Values that are put in an empty tree, of which only one leads to the place of a plain name. -/
theorem member?_setAll {es : List (String × Value)} {k : String} (h : HasDistinctKeys es)
    (hk : Step.path k = [.key k])
    (hother : ∀ e ∈ es, e.1 ≠ k → (Step.path e.1).head? ≠ some (.key k)) :
    (Value.empty.setAll es).member? k =
      (Table.lookup k es).map fun v => Value.assign v.1 v.2 Value.nil := by
  rw [Value.setAll, look_foldl (fun tree : Value => tree.member? k) h]
  · cases Table.lookup k es <;> rfl
  · intro tree e he
    by_cases hek : e.1 = k
    · rw [if_pos hek, Value.set, hek, hk, Value.member?_modifyAt, if_pos rfl]
      rfl
    · obtain ⟨j, rest, hpath⟩ := Step.exists_path e.1
      have hj : j ≠ k := by
        intro hjk
        apply hother e he hek
        rw [hpath, hjk, List.head?_cons]
      rw [if_neg hek, Value.set, hpath, Value.member?_modifyAt, if_neg hj]

theorem isNil_placed {v : Toml.Value} : (placed v).isNil = false := by
  cases v <;> rfl

/-- **What the tree of a file says about a setting is what stands in the file**, unless another of
its keys spells a path into the same section. -/
theorem said?_of_parse? {text : String} {ms : List (String × Toml.Value)} {x : Setting}
    (h : Toml.parse? text = some ms)
    (hother : ∀ e ∈ ms, e.1 ≠ x.part → (Step.path e.1).head? ≠ some (.key x.part)) :
    (Value.empty.setAll (membersOfToml ms)).said? x = (Toml.entry? ms x).map placed := by
  have hclean := Toml.clean_of_parse? h
  have hother' : ∀ e ∈ membersOfToml ms,
      e.1 ≠ x.part → (Step.path e.1).head? ≠ some (.key x.part) := by
    intro e he
    have hmem : e.1 ∈ ms.map (·.1) := map_fst_membersOfToml ▸ List.mem_map_of_mem he
    obtain ⟨e', he', heq⟩ := List.mem_map.mp hmem
    rw [← heq]
    exact hother e' he'
  have hdistinct : ∀ ms : List (String × Toml.Value), HasDistinctKeys ms →
      HasDistinctKeys (membersOfToml ms) := by
    intro ms hms
    rw [HasDistinctKeys, map_fst_membersOfToml]
    exact hms
  have hpart : (Value.empty.setAll (membersOfToml ms)).member? x.part =
      (Table.lookup x.part ms).map placed := by
    rw [member?_setAll (hdistinct ms hclean.keys) x.path_part hother', lookup_membersOfToml,
      Option.map_map]
    rfl
  rw [Value.said?, hpart, Toml.entry?]
  cases hlookup : Table.lookup x.part ms with
  | none => rfl
  | some v =>
      cases v with
      | table o inner =>
          have hinner : HasDistinctKeys inner :=
            Toml.Value.isClean_table.mp (hclean.values _ (mem_of_lookup hlookup))
          have hfield : (placed (.table o inner)).member? x.field =
              (Table.lookup x.field inner).map placed := by
            refine (lookup_assignAll (hdistinct inner hinner)).trans ?_
            rw [lookup_membersOfToml, Option.map_map]
            rfl
          rw [Option.map_some, Option.bind_some, hfield]
          dsimp only
          cases Table.lookup x.field inner with
          | none => rfl
          | some v => simp [Option.filter, isNil_placed]
      | _ => rfl

end SocketGateway.Config
