import Mathlib.Data.List.Basic
import SocketGateway.Config.Load
import SocketGateway.Proofs.Trees

/-!
# Variables over files

What an environment says about a setting is the text of its variable, and that goes over what a tree
says. What a file with further variables defines comes after what the environment has, and of its
entries for a setting the first one counts, with the texts that the variables in its value have where
it stands.
-/

namespace SocketGateway.Config

variable {tree : Value} {x y : Setting} {env env' : Environment} {name text : String}

namespace Environment

/-- A variable is never nothing, nor a table. -/
theorem isLeaf_nodeOf {o : Option Origin} (key text : String) :
    Value.isLeaf (o, nodeOf key text) = true := by
  unfold nodeOf
  split
  · rfl
  · rfl
  · split
    · rfl
    · split
      · rfl
      · split <;> rfl

def isOf (x : Setting) (name : String) : Bool :=
  Decimal.lower name.toList = x.variableName.toList

def textOf? (env : Environment) (x : Setting) : Option String :=
  (env.find? fun e => isOf x e.1).map (·.2)

def said? (env : Environment) (x : Setting) : Option Value :=
  (env.textOf? x).map fun text => (some .environment, nodeOf x.key text)

/-- Every variable that may be a setting is the variable of one, and of no other variable. -/
structure IsTidy (env : Environment) : Prop where
  known : ∀ e ∈ env, keyOf? e.1 ≠ none → ∃ x, isOf x e.1 = true
  single : env.Pairwise fun e e' => ∀ x, isOf x e.1 = true → isOf x e'.1 = false

theorem keyOf?_of_isOf (h : isOf x name = true) : keyOf? name = some x.key :=
  Setting.keyOf?_of_variableName (of_decide_eq_true h)

theorem eq_of_isOf (hx : isOf x name = true) (hy : isOf y name = true) : x = y := by
  have hnames : x.variableName.toList = y.variableName.toList :=
    (of_decide_eq_true hx).symm.trans (of_decide_eq_true hy)
  exact Setting.variableName_injective (String.toList_inj.mp hnames)

end Environment

open Environment

/-- **What the environment says goes over what a tree says.** -/
theorem said?_setAll_entries (h : env.IsTidy) :
    (tree.setAll env.entries).said? x = (env.said? x).or (tree.said? x) := by
  induction env generalizing tree with
  | nil => rfl
  | cons e env ih =>
      obtain ⟨hsingle, hrest⟩ := List.pairwise_cons.mp h.single
      have htidy : IsTidy env :=
        ⟨fun e' he' => h.known e' (List.mem_cons_of_mem e he'), hrest⟩
      obtain ⟨name, text⟩ := e
      by_cases hkey : keyOf? name = none
      · -- the variable is none of a setting and enters no value
        have hother : isOf x name = false := by
          rw [Bool.eq_false_iff]
          intro hof
          rw [keyOf?_of_isOf hof] at hkey
          cases hkey
        have hentries : entries ((name, text) :: env) = entries env := by
          simp [entries, hkey]
        rw [hentries, ih htidy]
        simp [Environment.said?, textOf?, List.find?_cons_of_neg, hother]
      · obtain ⟨y, hy⟩ := h.known _ List.mem_cons_self hkey
        have hentries : entries ((name, text) :: env) =
            (y.key, some .environment, nodeOf y.key text) :: entries env := by
          simp [entries, keyOf?_of_isOf hy]
        rw [hentries, Value.setAll_cons, ih htidy, Value.said?_set (isLeaf_nodeOf y.key text)]
        by_cases hxy : y = x
        · subst hxy
          -- no later variable is one of the same setting, so this value stays
          have hnone : env.find? (fun e => isOf y e.1) = none := by
            rw [List.find?_eq_none]
            intro e' he'
            rw [hsingle e' he' y hy]
            exact Bool.false_ne_true
          simp [Environment.said?, textOf?, hnone, List.find?_cons_of_pos, hy]
        · have hother : isOf x name = false := by
            rw [Bool.eq_false_iff]
            exact fun hof => hxy (eq_of_isOf hy hof)
          simp [Environment.said?, textOf?, List.find?_cons_of_neg, hother, hxy]

theorem Value.HasTables.setAll_entries (htree : tree.HasTables) (h : env.IsTidy) :
    (tree.setAll env.entries).HasTables := by
  refine htree.setAll fun e he => ?_
  obtain ⟨v, hv, heq⟩ := List.mem_filterMap.mp he
  obtain ⟨key, hkey, rfl⟩ := Option.map_eq_some_iff.mp heq
  have hsetting : keyOf? v.1 ≠ none := by
    rw [hkey]
    exact Option.some_ne_none key
  obtain ⟨x, hx⟩ := h.known v hv hsetting
  rw [keyOf?_of_isOf hx] at hkey
  exact ⟨x, (Option.some.inj hkey).symm⟩

/-! ## Variables from a file -/

namespace DotEnv

variable {e : Entry} {es : List Entry} {value : List Part}

def valueOf? (es : List Entry) (x : Setting) : Option (List Part) :=
  (es.find? fun e => isOf x e.name).map (·.value)

def above (es : List Entry) (x : Setting) : List Entry := es.takeWhile fun e => !isOf x e.name

/-- **A value depends on nothing but the variables that it mentions.** -/
theorem fill_congr
    (h : ∀ name, .mention name ∈ value → env'.lookup? name = env.lookup? name) :
    fill env' value = fill env value := by
  have hparts : ∀ part ∈ value, part.text env' = part.text env := by
    intro part hpart
    cases part with
    | char c => rfl
    | mention name => simp only [Part.text, h name hpart]
  rw [fill, fill, List.flatMap_congr hparts]

theorem lookup?_isSome_iff : (env.lookup? name).isSome = true ↔ name ∈ env.map (·.1) :=
  (Table.mem_keys_iff (t := ⟨env⟩)).symm

theorem textOf?_add_of_other (h : isOf x e.name = false) :
    (add env e).textOf? x = env.textOf? x := by
  unfold add
  split
  · rfl
  · simp [textOf?, List.find?_append, h]

/-- An entry gives a setting its text, if the environment has none for it. -/
theorem textOf?_add (h : isOf x e.name = true) :
    (add env e).textOf? x = (env.textOf? x).or (some (fill env e.value)) := by
  unfold add
  split
  · rename_i hthere
    obtain ⟨v, hv, hname⟩ := List.mem_map.mp (lookup?_isSome_iff.mp hthere)
    have hfound : (env.find? fun v => isOf x v.1).isSome = true :=
      List.find?_isSome.mpr ⟨v, hv, hname ▸ h⟩
    obtain ⟨v', hv'⟩ := Option.isSome_iff_exists.mp hfound
    simp [textOf?, hv']
  · rw [textOf?, List.find?_append, Option.map_or]
    simp [textOf?, h]

/-- **The text of a setting after all entries**: that of the environment, or else what the value of
its first entry is put together to where it stands. -/
theorem textOf?_foldl_add : (es.foldl add env).textOf? x =
    (env.textOf? x).or ((valueOf? es x).map (fill ((above es x).foldl add env))) := by
  induction es generalizing env with
  | nil => simp [valueOf?]
  | cons e es ih =>
      rw [List.foldl_cons, ih]
      by_cases h : isOf x e.name = true
      · -- this is the first entry for the setting
        rw [textOf?_add h, Option.or_assoc, Option.some_or]
        simp [valueOf?, above, h]
      · rw [Bool.not_eq_true] at h
        rw [textOf?_add_of_other h]
        simp [valueOf?, above, h]

theorem mem_foldl_add {v : String × String} (h : v ∈ es.foldl add env) :
    v.1 ∈ env.map (·.1) ++ es.map (·.name) := by
  induction es generalizing env with
  | nil => exact List.mem_append_left _ (List.mem_map_of_mem h)
  | cons e es ih =>
      have hmem := ih h
      unfold add at hmem
      split at hmem
      · rcases List.mem_append.mp hmem with hold | hnew
        · exact List.mem_append_left _ hold
        · exact List.mem_append_right _ (List.mem_cons_of_mem _ hnew)
      · simpa using hmem

theorem distinct_add (h : HasDistinctKeys env) : HasDistinctKeys (add env e) := by
  unfold add
  split
  · exact h
  · rename_i hnew
    exact h.snoc (Option.not_isSome_iff_eq_none.mp hnew)

theorem distinct_foldl_add (h : HasDistinctKeys env) : HasDistinctKeys (es.foldl add env) := by
  induction es generalizing env with
  | nil => exact h
  | cons e es ih => exact ih (distinct_add h)

end DotEnv

end SocketGateway.Config
