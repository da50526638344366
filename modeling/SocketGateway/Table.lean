/-!
# Tables

A finite map as the list of its entries, oldest first. Writing a key that is present changes the
value in place, so the order of entries is the order in which keys first appeared.
-/

namespace SocketGateway

/-- A finite map from keys to values. -/
structure Table (κ : Type) (α : Type) where
  entries : List (κ × α)
deriving Repr

namespace Table

variable {κ α : Type}

def empty : Table κ α := ⟨[]⟩

def keys (t : Table κ α) : List κ := t.entries.map (·.1)

def values (t : Table κ α) : List α := t.entries.map (·.2)

def size (t : Table κ α) : Nat := t.entries.length

theorem size_eq_length_keys (t : Table κ α) : t.size = t.keys.length := (List.length_map _).symm

section

variable [DecidableEq κ]

def lookup (k : κ) : List (κ × α) → Option α
  | [] => none
  | (j, v) :: es => if j = k then some v else lookup k es

/-- Entries with `v` at `k`: in its place if it has one, else at the end. -/
def put (k : κ) (v : α) : List (κ × α) → List (κ × α)
  | [] => [(k, v)]
  | (j, w) :: es => if j = k then (k, v) :: es else (j, w) :: put k v es

def find? (t : Table κ α) (k : κ) : Option α := lookup k t.entries

def contains (t : Table κ α) (k : κ) : Bool := (t.find? k).isSome

def insert (t : Table κ α) (k : κ) (v : α) : Table κ α := ⟨put k v t.entries⟩

def erase (t : Table κ α) (k : κ) : Table κ α := ⟨t.entries.filter fun e => e.1 ≠ k⟩

/-! ## Laws -/

@[simp] theorem find?_empty (k : κ) : (empty : Table κ α).find? k = none := rfl

/-- After inserting at a key it has the new value and the others are as before. -/
theorem find?_insert (t : Table κ α) (k j : κ) (v : α) :
    (t.insert k v).find? j = if k = j then some v else t.find? j := by
  unfold insert find?
  induction t.entries with
  | nil => simp [put, lookup]
  | cons e es ih =>
    obtain ⟨i, w⟩ := e
    by_cases hi : i = k
    · subst hi
      by_cases hj : i = j <;> simp [put, lookup, hj]
    · simp only [put, if_neg hi, lookup]
      by_cases hj : i = j
      · subst hj
        simp [Ne.symm hi]
      · simp only [if_neg hj]
        exact ih

/-- After erasing a key it is absent and the others are as before. -/
theorem find?_erase (t : Table κ α) (k j : κ) :
    (t.erase k).find? j = if k = j then none else t.find? j := by
  unfold erase find?
  induction t.entries with
  | nil => simp [lookup]
  | cons e es ih =>
    obtain ⟨i, w⟩ := e
    by_cases hi : i = k
    · subst hi
      by_cases hj : i = j
      · simp_all
      · simpa [lookup, hj] using ih
    · by_cases hj : i = j
      · subst hj
        simp [hi, Ne.symm hi, lookup]
      · simpa [hi, lookup, hj] using ih

end

end Table

end SocketGateway
