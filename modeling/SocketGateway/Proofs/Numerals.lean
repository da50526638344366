import Mathlib.Data.List.TakeWhile
import SocketGateway.Decimal.Reader
import SocketGateway.Proofs.Printing
import SocketGateway.Text.Split

/-!
# Numerals

The digits of a natural number are read back as that number where it fits into 63 bits, and as the
nearest double otherwise. For a number of 64 bits that is the nearest multiple of 2048. A list that is
written with a separator is split into its items again, as long as the separator is in none of them.
-/

namespace SocketGateway

namespace Text

variable {c sep : Char} {n : Nat} {cs : List Char} {ss : List String}

/-! ## Digits -/

theorem isDigit_of_mem_toDigits (hc : c ∈ Nat.toDigits 10 n) : isDigit 10 c = true := by
  have hdigit := Json.digit?_eq_some (Json.isDigit_of_mem_toDigits c hc)
  rw [isDigit, ← Json.digit?, hdigit]
  rfl

theorem number_toDigits : number 10 (Nat.toDigits 10 n) = n := by
  have hsame : ∀ cs : List Char, (∀ c ∈ cs, c.isDigit = true) → ∀ m,
      cs.foldl (fun n c => n * 10 + (digit? 10 c).getD 0) m = Nat.ofDigitChars 10 cs m := by
    intro cs hcs
    induction cs with
    | nil => exact fun m => rfl
    | cons c cs ih =>
        intro m
        have hdigit := Json.digit?_eq_some (hcs c List.mem_cons_self)
        rw [Json.digit?] at hdigit
        rw [List.foldl_cons, hdigit, Nat.ofDigitChars_cons,
          ih fun c hc => hcs c (List.mem_cons_of_mem _ hc), Nat.mul_comm m 10]
        rfl
  rw [number, hsame _ Json.isDigit_of_mem_toDigits]
  exact Nat.ofDigitChars_toDigits (by decide) (by decide)

/-! ## Lists -/

theorem splitAt_eq_splitOn (sep : Char) (cs : List Char) : splitAt sep cs = cs.splitOn sep := by
  induction cs with
  | nil => rfl
  | cons c cs ih =>
      rw [splitAt, ih, List.splitOn_cons_eq_if_modifyHead]
      cases hparts : cs.splitOn sep with
      | nil => exact absurd hparts (List.splitOn_ne_nil sep cs)
      | cons part parts => simp [List.modifyHead]

/-- A list is split where it was joined. -/
theorem split_intercalate (hne : ss ≠ []) (h : ∀ s ∈ ss, sep ∉ s.toList) :
    split sep ((String.singleton sep).intercalate ss) = ss := by
  rw [split, splitAt_eq_splitOn, String.toList_intercalate, String.toList_singleton,
    List.splitOn_intercalate]
  · simp [Function.comp_def]
  · simpa using h
  · simpa using hne

end Text

namespace Decimal

open SocketGateway.Text

variable {n : Nat} {cs : List Char} {s : String}

theorem natOf?_toDigits : natOf? (Nat.toDigits 10 n) = some n := by
  have hdigits : (Nat.toDigits 10 n).all (isDigit 10) = true :=
    List.all_eq_true.mpr fun c hc => isDigit_of_mem_toDigits hc
  simp [natOf?, hdigits, number_toDigits, Nat.toDigits_ne_nil]

theorem splitSign_toDigits : splitSign (Nat.toDigits 10 n) = (false, Nat.toDigits 10 n) := by
  obtain ⟨c, cs, hcs, hc⟩ := Json.exists_toDigits n
  rw [hcs, splitSign.eq_3]
  · rintro cs' heq
    cases heq
    cases hc
  · rintro cs' heq
    cases heq
    cases hc

theorem lower_toDigits : lower (Nat.toDigits 10 n) = Nat.toDigits 10 n := by
  refine (List.map_congr_left fun c hc => ?_).trans (List.map_id _)
  have hdigit : c.isDigit = true := Json.isDigit_of_mem_toDigits c hc
  have hval : c.val.toNat ≤ 57 := by
    simp only [Char.isDigit, Bool.and_eq_true, decide_eq_true_eq, UInt32.le_iff_toNat_le] at hdigit
    exact hdigit.2
  have hupper : 'A'.val.toNat = 65 := rfl
  refine dif_neg ?_
  simp only [ge_iff_le, UInt32.le_iff_toNat_le]
  omega

/-- Digits are an integer if they fit into 63 bits. -/
theorem int64Of?_repr : int64Of? n.repr = if n < 2 ^ 63 then some (n : Int) else none := by
  have hmin : Int64.minValue.toInt ≤ (n : Int) := by
    have : Int64.minValue.toInt = -2 ^ 63 := rfl
    omega
  have hmax : (n : Int) ≤ Int64.maxValue.toInt ↔ n < 2 ^ 63 := by
    have : Int64.maxValue.toInt = 2 ^ 63 - 1 := rfl
    omega
  simp only [int64Of?, Nat.toList_repr, splitSign_toDigits, natOf?_toDigits, Bool.false_eq_true,
    if_false]
  show (if _ ∧ _ then _ else _) = _
  simp only [hmin, hmax, true_and]

/-- Digits are always a double. -/
theorem doubleOf?_repr : doubleOf? n.repr = some (.ofDecimal false n 0) := by
  obtain ⟨c, cs, hcs, hc⟩ := Json.exists_toDigits n
  -- no word for a double begins with a digit
  have hword : ∀ d ds, d.isDigit = false → Nat.toDigits 10 n ≠ d :: ds := by
    rintro d ds hd heq
    rw [hcs] at heq
    cases heq
    cases hd.symm.trans hc
  have hinf : ¬(Nat.toDigits 10 n = "inf".toList ∨ Nat.toDigits 10 n = "infinity".toList) :=
    not_or.mpr ⟨hword 'i' _ rfl, hword 'i' _ rfl⟩
  have hnan : Nat.toDigits 10 n ≠ "nan".toList := hword 'n' _ rfl
  have hwhole : (Nat.toDigits 10 n).takeWhile (isDigit 10) = Nat.toDigits 10 n :=
    List.takeWhile_eq_self_iff.mpr fun c hc => isDigit_of_mem_toDigits hc
  simp only [doubleOf?, Nat.toList_repr, splitSign_toDigits, lower_toDigits, if_neg hinf,
    if_neg hnan, hwhole, List.drop_length]
  simp [Nat.toDigits_ne_nil, number_toDigits]

/-! ## What is no number -/

/-- Whether a character may stand in a number, or in a word that counts as a number or truth value. -/
def mayCount (c : Char) : Bool := isDigit 10 c || "+-.aefilnrstuy".toList.contains c.toLower

section

variable {c : Char} (hc : mayCount c = false)

include hc

theorem not_isDigit_of_mayCount : isDigit 10 c = false := (Bool.or_eq_false_iff.mp hc).1

theorem toLower_notMem_of_mayCount : c.toLower ∉ "+-.aefilnrstuy".toList := by
  simpa using (Bool.or_eq_false_iff.mp hc).2

theorem ne_of_mayCount {d : Char} (hd : mayCount d = true) : c ≠ d := by
  rintro rfl
  cases hc.symm.trans hd

/-- Such a character is in no word. -/
theorem lower_ne_of_mayCount (hmem : c ∈ cs) {word : List Char}
    (hword : word.all "+-.aefilnrstuy".toList.contains) : lower cs ≠ word := by
  rintro rfl
  have hall := List.all_eq_true.mp hword _ (List.mem_map_of_mem hmem)
  exact toLower_notMem_of_mayCount hc (List.contains_iff_mem.mp hall)

theorem natOf?_eq_none (hmem : c ∈ cs) : natOf? cs = none := by
  have hnot : cs.all (isDigit 10) = false := by
    rw [List.all_eq_false]
    exact ⟨c, hmem, by simp [not_isDigit_of_mayCount hc]⟩
  simp [natOf?, hnot]

theorem mem_splitSign (hmem : c ∈ cs) : c ∈ (splitSign cs).2 := by
  unfold splitSign
  split
  · exact List.mem_of_ne_of_mem (ne_of_mayCount hc (by decide)) hmem
  · exact List.mem_of_ne_of_mem (ne_of_mayCount hc (by decide)) hmem
  · exact hmem

/-- Such a character is in no integer. -/
theorem int64Of?_eq_none (hmem : c ∈ s.toList) : int64Of? s = none := by
  simp [int64Of?, natOf?_eq_none hc (mem_splitSign hc hmem)]

theorem exponentOf?_eq_none (hmem : c ∈ cs) : exponentOf? cs = none := by
  simp [exponentOf?, natOf?_eq_none hc (mem_splitSign hc hmem)]

theorem mem_dropWhile_digits (hmem : c ∈ cs) : c ∈ cs.dropWhile (isDigit 10) := by
  rw [← List.takeWhile_append_dropWhile (p := isDigit 10) (l := cs)] at hmem
  rcases List.mem_append.mp hmem with hdigit | hrest
  · cases (not_isDigit_of_mayCount hc).symm.trans (List.mem_takeWhile_imp hdigit)
  · exact hrest

/-- Digits after a point are left out as well. -/
theorem mem_afterPlaces (hmem : c ∈ cs) :
    c ∈ (match cs with
      | '.' :: cs => (cs.takeWhile (isDigit 10), cs.dropWhile (isDigit 10))
      | cs => ([], cs)).2 := by
  split
  · exact mem_dropWhile_digits hc (List.mem_of_ne_of_mem (ne_of_mayCount hc (by decide)) hmem)
  · exact hmem

/-- Such a character is in no double. -/
theorem doubleOf?_eq_none (hmem : c ∈ s.toList) : doubleOf? s = none := by
  have hsign := mem_splitSign hc hmem
  rw [doubleOf?]
  generalize splitSign s.toList = signed at hsign ⊢
  obtain ⟨neg, cs⟩ := signed
  have hinf : ¬(lower cs = "inf".toList ∨ lower cs = "infinity".toList) :=
    not_or.mpr ⟨lower_ne_of_mayCount hc hsign (by decide), lower_ne_of_mayCount hc hsign (by decide)⟩
  have hnan : lower cs ≠ "nan".toList := lower_ne_of_mayCount hc hsign (by decide)
  simp only [if_neg hinf, if_neg hnan]
  -- it is in no digits, and so it stands where the exponent must be
  have hrest : c ∈ cs.drop (cs.takeWhile (isDigit 10)).length := by
    have hdrop := @List.drop_left _ (cs.takeWhile (isDigit 10)) (cs.dropWhile (isDigit 10))
    rw [List.takeWhile_append_dropWhile] at hdrop
    exact hdrop ▸ mem_dropWhile_digits hc hsign
  generalize cs.drop (cs.takeWhile (isDigit 10)).length = rest at hrest ⊢
  have hplaces := mem_afterPlaces hc hrest
  refine ite_eq_left_iff.mpr fun _ => Option.map_eq_none_iff.mpr ?_
  revert hplaces
  generalize (match rest with
    | '.' :: cs => (cs.takeWhile (isDigit 10), cs.dropWhile (isDigit 10))
    | cs => ([], cs)).2 = tail
  intro htail
  split
  · cases htail
  · exact exponentOf?_eq_none hc (List.mem_of_ne_of_mem (ne_of_mayCount hc (by decide)) htail)
  · exact exponentOf?_eq_none hc (List.mem_of_ne_of_mem (ne_of_mayCount hc (by decide)) htail)
  · rfl

end

namespace Binary64

/-! ## Large numbers as doubles -/

theorem ofDecimal_eq_ofNat (hpos : 0 < n) (hsmall : n < 2 ^ 64) : ofDecimal false n 0 = ofNat n := by
  have hlength : (Nat.toDigits 10 n).length ≤ 20 :=
    (Nat.length_toDigits_le_iff (by decide) (by decide)).mpr (by omega)
  have hlong : ¬(310 : Int) < (Nat.toDigits 10 n).length + 0 := by omega
  have hshort : ¬((Nat.toDigits 10 n).length + 0 : Int) < -330 := by omega
  rw [ofDecimal.eq_def]
  simp only [if_neg (Nat.ne_of_gt hpos), if_neg hlong, if_neg hshort]
  show ofRatio false (n * 1) 1 = ofNat n
  rw [Nat.mul_one, ofNat]

theorem exponentOf_of_large (hlow : 2 ^ 63 ≤ n) (hhigh : n < 2 ^ 64) : exponentOf n 1 = 11 := by
  have hlog : n.log2 = 63 := (Nat.log2_eq_iff (by omega)).mpr ⟨hlow, hhigh⟩
  have hguess : ((n.log2 : Int) - ((1 : Nat).log2 : Int) - 52) = 11 := by
    rw [hlog]
    rfl
  rw [exponentOf]
  simp only [hguess]
  have hscale : scale n 1 (-11) = (n, 2048) := rfl
  have hfull : ¬n < 2048 * leastFull := by
    rw [leastFull]
    omega
  simp only [hscale, if_neg hfull]
  rfl

/-- Rounding, where the exponent is known and not too large. -/
theorem ofRatio_eq {neg : Bool} {num den n d : Nat} {e : Int} (hnum : num ≠ 0)
    (he : exponentOf num den = e) (hscale : scale num den (-e) = (n, d))
    (hsmall : e + 1 ≤ maxExponent) : ofRatio neg num den =
      if divEven n d = 2 * leastFull then .finite neg leastFull (e + 1)
      else .finite neg (divEven n d) e := by
  have hless : ¬maxExponent < e := by omega
  have hless' : ¬maxExponent < e + 1 := by omega
  rw [ofRatio, if_neg hnum, he]
  -- the number is too large to be looked into
  generalize leastFull = full
  by_cases hm : divEven n d = 2 * full
  · simp only [hscale, if_pos hm, if_neg hless']
  · simp only [hscale, if_neg hm, if_neg hless]

/-- A number of 64 bits that has no room in 63 becomes a multiple of 2048. -/
theorem ofNat_of_large (hlow : 2 ^ 63 ≤ n) (hhigh : n < 2 ^ 64) : ofNat n =
    if divEven n 2048 = 2 * leastFull then .finite false leastFull 12
    else .finite false (divEven n 2048) 11 :=
  ofRatio_eq (by omega) (exponentOf_of_large hlow hhigh) rfl (by decide)

theorem roundAway_ofNat (m k : Nat) : roundAway false m (k : Int) = (m * 2 ^ k : Nat) := by
  show ((divAway (m * Nat.pow 2 k) 1 : Nat) : Int) = _
  rw [divAway]
  have hpow : Nat.pow 2 k = 2 ^ k := rfl
  rw [hpow]
  omega

/-- A number of 64 bits that has no room in 63 is read as the nearest multiple of 2048. -/
theorem clamp_ofDecimal (hlow : 2 ^ 63 ≤ n) (hhigh : n < 2 ^ 64) :
    ((ofDecimal false n 0).clamp 0 (UInt64.size - 1)).toNat =
      min (2 ^ 64 - 1) (2048 * divEven n 2048) := by
  rw [ofDecimal_eq_ofNat (by omega) hhigh, ofNat_of_large hlow hhigh]
  have hclamp : ∀ m k : Nat, ((finite false m k).clamp 0 (UInt64.size - 1)).toNat =
      min (2 ^ 64 - 1) (m * 2 ^ k) := by
    intro m k
    rw [clamp, roundAway_ofNat]
    have hsize : ((UInt64.size : Nat) : Int) - 1 = 2 ^ 64 - 1 := rfl
    omega
  split
  · rename_i heq
    rw [heq, leastFull]
    exact hclamp leastFull 12
  · rw [Nat.mul_comm 2048]
    exact hclamp (divEven n 2048) 11

/-- It is kept exactly if it is such a multiple, or the largest number of 64 bits. -/
theorem min_divEven_eq_iff (hlow : 2 ^ 63 ≤ n) (hhigh : n < 2 ^ 64) :
    min (2 ^ 64 - 1) (2048 * divEven n 2048) = n ↔ 2048 ∣ n ∨ n = 2 ^ 64 - 1 := by
  rw [divEven]
  split
  · omega
  · split
    · omega
    · split <;> omega

end Binary64

end Decimal

end SocketGateway
