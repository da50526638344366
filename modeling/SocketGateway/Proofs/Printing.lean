import Mathlib.Data.String.Basic
import SocketGateway.Proofs.Reading
import SocketGateway.Json.Printer

/-!
# What is written is read again

Numbers, strings and whole values are read as they are written, whatever follows them. Numbers
are taken to be integers of 64 bits: those are the ones whose text names them exactly. `written`
is the printer without its accumulator, and the proof for values goes along its recursion.
-/

namespace SocketGateway.Json

/-! ## Numbers -/

/-- What may follow a number without becoming a part of it. -/
def Stops (rest : List Char) : Prop :=
  ∀ c ∈ rest.head?, digit? c = none ∧ c ≠ '.' ∧ c ≠ 'e' ∧ c ≠ 'E'

theorem digit?_eq_some {c : Char} (h : c.isDigit) : digit? c = some (c.toNat - '0'.toNat) := by
  have hc : 0x30 ≤ c.toNat ∧ c.toNat ≤ 0x39 := by
    simpa [Char.isDigit, UInt32.le_iff_toNat_le] using h
  have hval : c.toNat - 0x30 < 10 := by omega
  simp [digit?, Text.digit?, hc, hval]

/-- Digits are taken as a whole if the number they form is below the limit and no digit follows. -/
theorem takeDigits_digits {ds rest : List Char} {n count : Nat} (hds : ∀ c ∈ ds, c.isDigit)
    (hstop : ∀ c ∈ rest.head?, digit? c = none)
    (hlimit : Nat.ofDigitChars 10 ds n < digitLimit) :
    takeDigits (ds ++ rest) n count = (Nat.ofDigitChars 10 ds n, count + ds.length, rest) := by
  induction ds generalizing n count with
  | nil =>
    cases rest with
    | nil => rfl
    | cons c rest =>
      have hc := hstop c rfl
      simp [takeDigits, hc]
  | cons d ds ih =>
    rw [Nat.ofDigitChars_cons] at hlimit ⊢
    have hn : n * 10 + (d.toNat - '0'.toNat) = 10 * n + (d.toNat - '0'.toNat) := by omega
    have hle : 10 * n + (d.toNat - '0'.toNat) < digitLimit := by
      rw [Nat.ofDigitChars_eq_ofDigitChars_zero] at hlimit
      have hpos : 0 < 10 ^ ds.length := Nat.pow_pos (by decide)
      have := Nat.le_mul_of_pos_left (10 * n + (d.toNat - '0'.toNat)) hpos
      omega
    -- the digits so far stay below the limit because all of them together do
    rw [List.cons_append, takeDigits, digit?_eq_some (hds d List.mem_cons_self)]
    simp only [hn, if_pos hle]
    rw [ih (fun c hc => hds c (List.mem_cons_of_mem d hc)) hlimit, List.length_cons]
    simp only [Nat.add_assoc, Nat.add_comm 1]

theorem isDigit_of_mem_toDigits {n : Nat} : ∀ c ∈ Nat.toDigits 10 n, c.isDigit :=
  fun _ hc => Nat.isDigit_of_mem_toDigits (by decide) (by decide) hc

theorem exists_toDigits (n : Nat) : ∃ c cs, Nat.toDigits 10 n = c :: cs ∧ c.isDigit := by
  obtain ⟨c, cs, hcs⟩ := List.exists_cons_of_ne_nil (Nat.toDigits_ne_nil (n := n) (b := 10))
  exact ⟨c, cs, hcs, isDigit_of_mem_toDigits c (hcs ▸ List.mem_cons_self)⟩

/-- The digits of a positive number do not begin with a zero. -/
theorem toDigits_head {n : Nat} (h : 0 < n) :
    ∃ c cs, Nat.toDigits 10 n = c :: cs ∧ c ≠ '0' := by
  induction n using Nat.strongRecOn with
  | _ n ih =>
    by_cases hn : n < 10
    · refine ⟨n.digitChar, [], Nat.toDigits_of_lt_base hn, ?_⟩
      rw [ne_eq, Nat.digitChar_eq_zero]
      omega
    · obtain ⟨c, cs, htop, hzero⟩ := ih (n / 10) (by omega) (by omega)
      refine ⟨c, cs ++ [(n % 10).digitChar], ?_, hzero⟩
      rw [Nat.toDigits_of_base_le (by decide) (by omega), htop, List.cons_append]

theorem readNumber_toDigits (neg : Bool) {n : Nat} {rest : List Char} (hn : n < digitLimit)
    (hstop : Stops rest) :
    readNumber neg (Nat.toDigits 10 n ++ rest) = .ok (finishInt neg n, rest) := by
  rcases Nat.eq_zero_or_pos n with rfl | hpos
  · -- a zero stands alone
    rw [Nat.toDigits_zero]
    cases rest with
    | nil => rfl
    | cons c rest =>
      obtain ⟨hdigit, hpoint, he, hE⟩ := hstop c rfl
      simp only [List.cons_append, List.nil_append, readNumber]
      split <;> simp_all
  · obtain ⟨c, cs, hdigits, hzero⟩ := toDigits_head hpos
    have htake : takeDigits (Nat.toDigits 10 n ++ rest) 0 0 = (n, (c :: cs).length, rest) := by
      rw [takeDigits_digits isDigit_of_mem_toDigits (fun d hd => (hstop d hd).1)
        (by rw [Nat.ofDigitChars_ten_toDigits]; exact hn), Nat.ofDigitChars_ten_toDigits, hdigits,
        Nat.zero_add]
    have hskip : skipDigits rest 0 = (0, rest) := by
      cases rest with
      | nil => rfl
      | cons d rest => simp [skipDigits, (hstop d rfl).1]
    rw [hdigits, List.cons_append] at htake ⊢
    rw [readNumber.eq_def]
    split
    · rename_i heq
      cases heq
    · rename_i more heq
      exact absurd (List.cons.inj heq).1 hzero
    · simp only [htake, hskip]
      rw [if_neg (by simp)]
      cases rest with
      | nil => rfl
      | cons d rest =>
        obtain ⟨-, hpoint, he, hE⟩ := hstop d rfl
        grind

/-- A number is an integer of 64 bits, with or without a sign. -/
def Number.IsIntegral : Number → Prop
  | .int i => -0x8000000000000000 ≤ i ∧ i < 0x10000000000000000
  | .float _ => False

/-- What begins with a digit is a number. -/
theorem readScalar_digit {size : Nat} {c : Char} {cs rest : List Char} {n : Number}
    (h : c.isDigit) (hread : readNumber false (c :: cs) = .ok (n, rest)) :
    readScalar size (c :: cs) = .ok (.number n, rest) := by
  unfold readScalar
  split <;> simp_all [digit?_eq_some]

/-- An integer of 64 bits is read as it is written. -/
theorem readScalar_number {size : Nat} {n : Number} {rest : List Char} (hn : n.IsIntegral)
    (hstop : Stops rest) : readScalar size (n.chars ++ rest) = .ok (.number n, rest) := by
  match n with
  | .int (.ofNat m) =>
    have hm : m < digitLimit := by
      have hlt : (m : Int) < 0x10000000000000000 := hn.2
      simp only [digitLimit, UInt64.size]
      omega
    have hread := readNumber_toDigits false hm hstop
    obtain ⟨c, cs, hcs, hc⟩ := exists_toDigits m
    show readScalar size (Nat.toDigits 10 m ++ rest) = _
    rw [hcs, List.cons_append] at hread ⊢
    exact readScalar_digit hc hread
  | .int (.negSucc m) =>
    have hm : m + 1 ≤ 0x8000000000000000 := by
      have hle := hn.1
      omega
    have hlimit : m + 1 < digitLimit := by
      simp only [digitLimit, UInt64.size]
      omega
    have hread := readNumber_toDigits true hlimit hstop
    have hint : finishInt true (m + 1) = .int (.negSucc m) := by
      rw [finishInt, if_pos rfl, if_neg (by omega)]
      rfl
    show readScalar size ('-' :: (Nat.toDigits 10 (m + 1) ++ rest)) = _
    simp only [readScalar, hread, hint]
  | .float x => cases hn

/-! ## Strings -/

theorem hexDigit?_digitChar : ∀ n < 16, hexDigit? (Nat.digitChar n) = some n := by decide

theorem readEscape_hexByte {n : Nat} (rest : List Char) (h : n < 0x20) :
    readEscape ('u' :: '0' :: '0' :: (hexByte n ++ rest)) = .ok (Char.ofNat n, rest) := by
  have hhigh := hexDigit?_digitChar (n / 16 % 16) (by omega)
  have hlow := hexDigit?_digitChar (n % 16) (by omega)
  have hzero : hexDigit? '0' = some 0 := by decide
  have hvalue : n / 16 % 16 * 16 + n % 16 = n := by omega
  have hhex : readHex4 ('0' :: '0' :: (hexByte n ++ rest)) = .ok (n, rest) := by
    simp [readHex4, hexByte, hhigh, hlow, hzero, hvalue]
  have hplain : isTrailing n = false ∧ isLeading n = false := by
    constructor <;> simp [isTrailing, isLeading] <;> omega
  simp only [readEscape, readUnits, hhex, hplain]
  rfl

/-- One character is read as it is escaped. -/
theorem readString_escapeChar {fuel : Nat} {acc rest : List Char} (c : Char) :
    readString (fuel + 1) acc (escapeChar c ++ rest) = readString fuel (c :: acc) rest := by
  unfold escapeChar
  split
  -- the escapes of one letter
  iterate 7 rfl
  · rename_i hquote hback h8 hc hn hr ht
    split
    · rename_i hctrl
      have hread := readEscape_hexByte rest hctrl
      rw [Char.ofNat_toNat] at hread
      simp only [List.cons_append, readString, hread]
    · rename_i hctrl
      rw [List.cons_append, List.nil_append, readString.eq_def]
      grind

/-- A string is read as it is written. -/
theorem readString_quoted {fuel : Nat} {acc rest : List Char} {cs : List Char}
    (hfuel : cs.length < fuel) :
    readString fuel acc (cs.flatMap escapeChar ++ '"' :: rest) =
      .ok (String.ofList (acc.reverse ++ cs), rest) := by
  induction cs generalizing fuel acc with
  | nil =>
    obtain ⟨fuel, rfl⟩ := Nat.exists_eq_add_of_lt hfuel
    simp [readString]
  | cons c cs ih =>
    cases fuel with
    | zero => simp at hfuel
    | succ fuel =>
      rw [List.length_cons] at hfuel
      rw [List.flatMap_cons, List.append_assoc, readString_escapeChar, ih (by omega)]
      simp

/-! ## Nested values -/

namespace Value

mutual

def written : Value → List Char
  | .null => "null".toList
  | .bool true => "true".toList
  | .bool false => "false".toList
  | .number n => n.chars
  | .string s => quoted s
  | .array items => '[' :: (writtenItems true items ++ [']'])
  | .object members => '{' :: (writtenMembers true members ++ ['}'])

def writtenItems : Bool → List Value → List Char
  | _, [] => []
  | first, v :: vs => (if first then [] else [',']) ++ written v ++ writtenItems false vs

def writtenMembers : Bool → List (String × Value) → List Char
  | _, [] => []
  | first, (k, v) :: ms =>
    (if first then [] else [',']) ++ quoted k ++ ':' :: written v ++ writtenMembers false ms

end

mutual

theorem push_eq : ∀ (v : Value) (acc : List Char), v.push acc = v.written.reverse ++ acc
  | .null, acc => by simp [push, written]
  | .bool true, acc => by simp [push, written]
  | .bool false, acc => by simp [push, written]
  | .number n, acc => by simp [push, written]
  | .string s, acc => by simp [push, written]
  | .array items, acc => by simp [push, written, pushItems_eq]
  | .object members, acc => by simp [push, written, pushMembers_eq]

theorem pushItems_eq : ∀ (first : Bool) (vs : List Value) (acc : List Char),
    pushItems first vs acc = (writtenItems first vs).reverse ++ acc
  | _, [], acc => by simp [pushItems, writtenItems]
  | true, v :: vs, acc => by simp [pushItems, writtenItems, push_eq v, pushItems_eq false vs]
  | false, v :: vs, acc => by simp [pushItems, writtenItems, push_eq v, pushItems_eq false vs]

theorem pushMembers_eq : ∀ (first : Bool) (ms : List (String × Value)) (acc : List Char),
    pushMembers first ms acc = (writtenMembers first ms).reverse ++ acc
  | _, [], acc => by simp [pushMembers, writtenMembers]
  | true, (k, v) :: ms, acc => by
    simp [pushMembers, writtenMembers, push_eq v, pushMembers_eq false ms]
  | false, (k, v) :: ms, acc => by
    simp [pushMembers, writtenMembers, push_eq v, pushMembers_eq false ms]

end

theorem chars_eq_written (v : Value) : v.chars = v.written := by
  simp [chars, push_eq]

mutual

def depth : Value → Nat
  | .array items => depthOfItems items + 1
  | .object members => depthOfMembers members + 1
  | _ => 0

def depthOfItems : List Value → Nat
  | [] => 0
  | v :: vs => max v.depth (depthOfItems vs)

def depthOfMembers : List (String × Value) → Nat
  | [] => 0
  | (_, v) :: ms => max v.depth (depthOfMembers ms)

end

mutual

/-- A property holds of a value and of all values in it. -/
def Throughout (p : Value → Prop) : Value → Prop
  | .array items => p (.array items) ∧ ThroughoutItems p items
  | .object members => p (.object members) ∧ ThroughoutMembers p members
  | v => p v

def ThroughoutItems (p : Value → Prop) : List Value → Prop
  | [] => True
  | v :: vs => v.Throughout p ∧ ThroughoutItems p vs

def ThroughoutMembers (p : Value → Prop) : List (String × Value) → Prop
  | [] => True
  | (_, v) :: ms => v.Throughout p ∧ ThroughoutMembers p ms

end

def IsIntegralNumber : Value → Prop
  | .number n => n.IsIntegral
  | _ => True

def HasOrderedKeys : Value → Prop
  | .object ms => ms.Pairwise (·.1 < ·.1)
  | _ => True

def IsIntegral (v : Value) : Prop := v.Throughout IsIntegralNumber

def IsOrdered (v : Value) : Prop := v.Throughout HasOrderedKeys

theorem throughoutItems_iff {p : Value → Prop} {vs : List Value} :
    ThroughoutItems p vs ↔ ∀ v ∈ vs, v.Throughout p := by
  induction vs with
  | nil => simp [ThroughoutItems]
  | cons v vs ih => simp [ThroughoutItems, ih]

theorem throughoutMembers_iff {p : Value → Prop} {ms : List (String × Value)} :
    ThroughoutMembers p ms ↔ ∀ m ∈ ms, m.2.Throughout p := by
  induction ms with
  | nil => simp [ThroughoutMembers]
  | cons m ms ih =>
    obtain ⟨k, v⟩ := m
    simp [ThroughoutMembers, ih]

/-! ## Canonical values -/

section Adding

variable {k : String} {v : α} {ms : List (String × α)}

theorem addMember_of_lt (h : ∀ m ∈ ms, k < m.1) : addMember k v ms = (k, v) :: ms := by
  cases ms with
  | nil => rfl
  | cons m ms => rw [addMember, if_pos (h m List.mem_cons_self)]

theorem mem_addMember {m : String × α} (h : m ∈ addMember k v ms) : m = (k, v) ∨ m ∈ ms := by
  induction ms with
  | nil => simpa [addMember] using h
  | cons m' ms ih =>
    obtain ⟨k', v'⟩ := m'
    rw [addMember] at h
    split at h
    · simpa using h
    · split at h
      · exact .inr h
      · rcases List.mem_cons.mp h with rfl | h
        · exact .inr List.mem_cons_self
        · exact (ih h).imp id (List.mem_cons_of_mem _)

theorem pairwise_addMember (h : ms.Pairwise (·.1 < ·.1)) :
    (addMember k v ms).Pairwise (·.1 < ·.1) := by
  induction h with
  | nil => simp [addMember]
  | @cons m' ms hlt hms ih =>
    obtain ⟨k', v'⟩ := m'
    rw [addMember]
    split
    · rename_i hk
      refine .cons (fun m hm => ?_) (.cons hlt hms)
      rcases List.mem_cons.mp hm with rfl | hm
      · exact hk
      · exact lt_trans hk (hlt m hm)
    · rename_i hk
      split
      · exact .cons hlt hms
      · rename_i hne
        refine .cons (fun m hm => ?_) ih
        rcases mem_addMember hm with rfl | hm
        · exact lt_of_le_of_ne (not_lt.mp hk) (Ne.symm hne)
        · exact hlt m hm

/-- Members whose keys ascend are added in front of one another. -/
theorem foldr_addMember_eq_self (h : ms.Pairwise (·.1 < ·.1)) :
    ms.foldr (fun m => addMember m.1 m.2) [] = ms := by
  induction h with
  | nil => rfl
  | cons hlt _ ih => rw [List.foldr_cons, ih, addMember_of_lt hlt]

theorem pairwise_foldr_addMember (ms : List (String × α)) :
    (ms.foldr (fun m => addMember m.1 m.2) []).Pairwise (·.1 < ·.1) := by
  induction ms with
  | nil => exact .nil
  | cons m ms ih => exact pairwise_addMember ih

end Adding

mutual

/-- A value whose keys ascend is in canonical form. -/
theorem canonical_eq_self : ∀ {v : Value}, v.IsOrdered → v.canonical = v
  | .null, _ => rfl
  | .bool _, _ => rfl
  | .number _, _ => rfl
  | .string _, _ => rfl
  | .array items, h => by rw [canonical_array, map_canonical_eq_self h.2]
  | .object members, h => by
    rw [canonical_object, map_members_eq_self h.2, foldr_addMember_eq_self h.1]

theorem map_canonical_eq_self : ∀ {vs : List Value}, ThroughoutItems HasOrderedKeys vs →
    vs.map canonical = vs
  | [], _ => rfl
  | v :: vs, h => by rw [List.map_cons, canonical_eq_self h.1, map_canonical_eq_self h.2]

theorem map_members_eq_self : ∀ {ms : List (String × Value)},
    ThroughoutMembers HasOrderedKeys ms → ms.map (fun m => (m.1, m.2.canonical)) = ms
  | [], _ => rfl
  | (k, v) :: ms, h => by rw [List.map_cons, canonical_eq_self h.1, map_members_eq_self h.2]

end

mutual

theorem isOrdered_canonical : ∀ v : Value, v.canonical.IsOrdered
  | .null => trivial
  | .bool _ => trivial
  | .number _ => trivial
  | .string _ => trivial
  | .array items => by
    rw [canonical_array]
    exact ⟨trivial, throughout_canonicalItems items⟩
  | .object members => by
    rw [canonical_object]
    exact ⟨pairwise_foldr_addMember _, throughout_canonicalMembers members⟩

theorem throughout_canonicalItems : ∀ vs : List Value,
    ThroughoutItems HasOrderedKeys (vs.map canonical)
  | [] => trivial
  | v :: vs => ⟨isOrdered_canonical v, throughout_canonicalItems vs⟩

theorem throughout_canonicalMembers : ∀ ms : List (String × Value),
    ThroughoutMembers HasOrderedKeys
      ((ms.map fun m => (m.1, m.2.canonical)).foldr (fun m => addMember m.1 m.2) [])
  | [] => trivial
  | (k, v) :: ms => by
    have hrest := throughoutMembers_iff.mp (throughout_canonicalMembers ms)
    refine throughoutMembers_iff.mpr fun m hm => ?_
    rcases mem_addMember hm with rfl | hm
    · exact isOrdered_canonical v
    · exact hrest m hm

end

/-- The values in canonical form, which are those that are kept, are the ones with ordered keys. -/
theorem canonical_eq_self_iff {v : Value} : v.canonical = v ↔ v.IsOrdered := by
  constructor
  · intro h
    exact h ▸ isOrdered_canonical v
  · exact canonical_eq_self

end Value

/-! ## Reading what was written -/

theorem escapeChar_ne_nil (c : Char) : escapeChar c ≠ [] := by
  unfold escapeChar
  split
  iterate 7 simp
  · split <;> simp

theorem length_le_flatMap_escapeChar (cs : List Char) :
    cs.length ≤ (cs.flatMap escapeChar).length := by
  induction cs with
  | nil => simp
  | cons c cs ih =>
    have hpos := List.length_pos_iff.mpr (escapeChar_ne_nil c)
    rw [List.flatMap_cons, List.length_append, List.length_cons]
    omega

/-- A number begins with a digit or the sign. -/
theorem Number.chars_head {n : Number} (hn : n.IsIntegral) :
    ∃ c cs, n.chars = c :: cs ∧ (c.isDigit ∨ c = '-') := by
  match n with
  | .int (.ofNat m) =>
    obtain ⟨c, cs, hcs, hc⟩ := exists_toDigits m
    exact ⟨c, cs, hcs, .inl hc⟩
  | .int (.negSucc m) => exact ⟨_, _, rfl, .inr rfl⟩
  | .float x => cases hn

theorem isSpace_of_isDigit {c : Char} (h : c.isDigit) : isSpace c = false := by
  rw [Bool.eq_false_iff]
  intro hspace
  simp only [isSpace, Bool.or_eq_true, beq_iff_eq] at hspace
  rcases hspace with ((rfl | rfl) | rfl) | rfl <;> simp at h

/-- The first character of a value is no blank and ends no list. -/
theorem Value.written_head {v : Value} (hv : v.IsIntegral) :
    ∃ c cs, v.written = c :: cs ∧ isSpace c = false ∧ c ≠ ']' := by
  cases v with
  | null => exact ⟨_, _, rfl, by decide, by decide⟩
  | bool b => cases b <;> exact ⟨_, _, rfl, by decide, by decide⟩
  | number n =>
    obtain ⟨c, cs, hcs, hc⟩ := Number.chars_head hv
    refine ⟨c, cs, hcs, ?_⟩
    rcases hc with hdigit | rfl
    · exact ⟨isSpace_of_isDigit hdigit, fun heq => by simp [heq] at hdigit⟩
    · exact ⟨by decide, by decide⟩
  | string s => exact ⟨_, _, rfl, by decide, by decide⟩
  | array items => exact ⟨_, _, rfl, by decide, by decide⟩
  | object members => exact ⟨_, _, rfl, by decide, by decide⟩

theorem skipSpace_cons {c : Char} (cs : List Char) (h : isSpace c = false) :
    skipSpace (c :: cs) = c :: cs := by
  simp [skipSpace, h]

section Ahead

variable {v : Value}

theorem skipSpace_written (rest : List Char) (hv : v.IsIntegral) :
    skipSpace (v.written ++ rest) = v.written ++ rest := by
  obtain ⟨c, cs, hcs, hspace, -⟩ := Value.written_head hv
  rw [hcs, List.cons_append, skipSpace_cons _ hspace]

/-- After the comma, if there is one, comes the item. -/
theorem nextItem_written (first : Bool) (rest : List Char) (hv : v.IsIntegral) :
    nextItem first ((if first then [] else [',']) ++ v.written ++ rest) =
      .ok (.more (v.written ++ rest)) := by
  obtain ⟨c, cs, hcs, hspace, hend⟩ := Value.written_head hv
  have hskip := skipSpace_cons (cs ++ rest) hspace
  have hcomma := skipSpace_cons (c :: (cs ++ rest)) (c := ',') (by decide)
  cases first with
  | true => simp [nextItem, hcs, hskip]
  | false => simp [nextItem, hcs, hcomma, hskip, hend]

theorem nextKey_written (first : Bool) (cs : List Char) :
    nextKey first ((if first then [] else [',']) ++ '"' :: cs) = .ok (.more cs) := by
  have hquote := skipSpace_cons cs (c := '"') (by decide)
  have hcomma := skipSpace_cons ('"' :: cs) (c := ',') (by decide)
  cases first <;> simp [nextKey, hquote, hcomma]

theorem stops_cons {c : Char} {cs : List Char}
    (h : digit? c = none ∧ c ≠ '.' ∧ c ≠ 'e' ∧ c ≠ 'E') : Stops (c :: cs) := by
  intro d hd
  cases hd
  exact h

/-- After an item comes a comma or the end of the list. -/
theorem stops_items (vs : List Value) (rest : List Char) :
    Stops (Value.writtenItems false vs ++ ']' :: rest) := by
  cases vs with
  | nil => exact stops_cons (by decide)
  | cons v vs => exact stops_cons (by decide)

/-- After a member comes a comma or the end of the object. -/
theorem stops_members (ms : List (String × Value)) (rest : List Char) :
    Stops (Value.writtenMembers false ms ++ '}' :: rest) := by
  cases ms with
  | nil => exact stops_cons (by decide)
  | cons m ms => exact stops_cons (by decide)

end Ahead

/-- A string shorter than the fuel is read as it is written. -/
theorem readString_written {size : Nat} (s : String) (rest : List Char)
    (h : s.toList.length < size) :
    readString size [] (s.toList.flatMap escapeChar ++ '"' :: rest) = .ok (s, rest) := by
  rw [readString_quoted h, List.reverse_nil, List.nil_append, String.ofList_toList]

theorem readValue_of_scalar {size depth : Nat} {v : Value} {rest : List Char} (hv : v.IsIntegral)
    (h : readScalar size (v.written ++ rest) = .ok (v, rest)) :
    readValue size depth (v.written ++ rest) = .ok (v, rest) := by
  refine readValue_eq_ok_iff.mpr (.inr (.inr ?_))
  rwa [skipSpace_written rest hv]

mutual

/-- A value is read as it is written, whatever follows that does not go on with a number. -/
theorem readValue_written : ∀ (v : Value) {size depth : Nat} (rest : List Char), v.IsIntegral →
    v.depth ≤ depth → Stops rest → (v.written ++ rest).length < size →
    readValue size depth (v.written ++ rest) = .ok (v, rest)
  | .null, _, _, _, hv, _, _, _ => readValue_of_scalar hv rfl
  | .bool true, _, _, _, hv, _, _, _ => readValue_of_scalar hv rfl
  | .bool false, _, _, _, hv, _, _, _ => readValue_of_scalar hv rfl
  | .number n, _, _, _, hv, _, hstop, _ =>
    readValue_of_scalar hv (readScalar_number hv hstop)
  | .string s, size, _, rest, hv, _, _, hsize => by
    have hfuel : s.toList.length < size := by
      have hle := length_le_flatMap_escapeChar s.toList
      simp only [Value.written, quoted, List.length_append, List.length_cons] at hsize
      omega
    have hread := readString_written s rest hfuel
    refine readValue_of_scalar hv ?_
    simp [Value.written, quoted, readScalar, hread]
  | .array items, size, depth, rest, hv, hdepth, _, hsize => by
    rw [Value.depth] at hdepth
    cases depth with
    | zero => omega
    | succ depth =>
      have hdeep : Value.depthOfItems items ≤ depth := by omega
      have hinner : (Value.writtenItems true items ++ ']' :: rest).length < size := by
        simp only [Value.written, List.length_append, List.length_cons] at hsize ⊢
        omega
      have hskip := skipSpace_written rest hv
      have hitems := items_written items true rest hv.2 hdeep hinner
      simp only [Value.written, List.cons_append, List.append_assoc, List.nil_append] at hskip ⊢
      exact (readValue_array_iff (by simpa [Value.written] using hsize) hskip).mpr
        ⟨items, rfl, hitems⟩
  | .object members, size, depth, rest, hv, hdepth, _, hsize => by
    rw [Value.depth] at hdepth
    cases depth with
    | zero => omega
    | succ depth =>
      have hdeep : Value.depthOfMembers members ≤ depth := by omega
      have hinner : (Value.writtenMembers true members ++ '}' :: rest).length < size := by
        simp only [Value.written, List.length_append, List.length_cons] at hsize ⊢
        omega
      have hskip := skipSpace_written rest hv
      have hmembers := members_written members true rest hv.2 hdeep hinner
      simp only [Value.written, List.cons_append, List.append_assoc, List.nil_append] at hskip ⊢
      exact (readValue_object_iff (by simpa [Value.written] using hsize) hskip).mpr
        ⟨members, rfl, hmembers⟩

theorem items_written : ∀ (vs : List Value) {size depth : Nat} (first : Bool) (rest : List Char),
    Value.ThroughoutItems Value.IsIntegralNumber vs → Value.depthOfItems vs ≤ depth →
    (Value.writtenItems first vs ++ ']' :: rest).length < size →
    Items (readValue size depth) first (Value.writtenItems first vs ++ ']' :: rest) vs rest
  | [], size, depth, first, rest, hvs, hdepth, hsize => .done rfl
  | v :: vs, size, depth, first, rest, hvs, hdepth, hsize => by
    have hfirst : v.depth ≤ depth := by
      rw [Value.depthOfItems] at hdepth
      omega
    have hrest : Value.depthOfItems vs ≤ depth := by
      rw [Value.depthOfItems] at hdepth
      omega
    simp only [Value.writtenItems, List.append_assoc, List.length_append] at hsize ⊢
    have hnext := nextItem_written first (Value.writtenItems false vs ++ ']' :: rest) hvs.1
    rw [List.append_assoc] at hnext
    refine .more hnext (readValue_written v _ hvs.1 hfirst (stops_items vs rest) ?_)
      (items_written vs false rest hvs.2 hrest ?_)
    · simp only [List.length_append]
      omega
    · simp only [List.length_append]
      omega

theorem members_written : ∀ (ms : List (String × Value)) {size depth : Nat} (first : Bool)
    (rest : List Char),
    Value.ThroughoutMembers Value.IsIntegralNumber ms → Value.depthOfMembers ms ≤ depth →
    (Value.writtenMembers first ms ++ '}' :: rest).length < size →
    Members (readValue size depth) size first (Value.writtenMembers first ms ++ '}' :: rest) ms rest
  | [], size, depth, first, rest, hms, hdepth, hsize => .done rfl
  | (k, v) :: ms, size, depth, first, rest, hms, hdepth, hsize => by
    have hfirst : v.depth ≤ depth := by
      rw [Value.depthOfMembers] at hdepth
      omega
    have hrest : Value.depthOfMembers ms ≤ depth := by
      rw [Value.depthOfMembers] at hdepth
      omega
    have hkey := length_le_flatMap_escapeChar k.toList
    simp only [Value.writtenMembers, quoted, List.append_assoc, List.cons_append,
      List.nil_append, List.length_append, List.length_cons] at hsize ⊢
    have hread := readString_written k
      (':' :: (v.written ++ (Value.writtenMembers false ms ++ '}' :: rest)))
      (show k.toList.length < size by omega)
    refine .more (nextKey_written first _) hread rfl
      (readValue_written v _ hms.1 hfirst (stops_members ms rest) ?_)
      (members_written ms false rest hms.2 hrest ?_)
    · simp only [List.length_append, List.length_cons]
      omega
    · simp only [List.length_append, List.length_cons]
      omega

end

/-- The text of a value holds that value. -/
theorem contents?_render {v : Value} (hv : v.IsIntegral) (hdepth : v.depth ≤ maxDepth) :
    contents? v.render = some v := by
  have hread := readValue_written v [] hv hdepth (by simp [Stops])
    (Nat.lt_succ_self (v.written ++ []).length)
  rw [List.append_nil] at hread
  refine contents?_eq_some_iff.mpr ⟨[], ?_, rfl⟩
  rwa [Value.render, String.toList_ofList, Value.chars_eq_written]

end SocketGateway.Json
