import SocketGateway.Json.Reader

/-!
# What the readers of JSON do

A reader takes characters from the front of a text: what it leaves is always an end of what it was
given. From this follows that the fuel of the loops is never used up on a text that is as long as
the readers are told, and the loops can be described without it: `Items` and `Members` say which
lists of items and members stand at the front of a text. `contents?` is the value that a whole
text holds, its members in the order written.
-/

namespace SocketGateway.Json

/-! ## A reader leaves an end of the text -/

theorem skipSpace_suffix (cs : List Char) : skipSpace cs <:+ cs := List.dropWhile_suffix _

/-- A word gives its value and nothing else. -/
theorem readWord_ok {v a : α} {ws cs rest : List Char}
    (h : readWord v ws cs = .ok (a, rest)) : a = v ∧ rest <:+ cs := by
  induction ws generalizing cs with
  | nil =>
    simp only [readWord, Except.ok.injEq, Prod.mk.injEq] at h
    exact ⟨h.1.symm, h.2 ▸ List.suffix_refl cs⟩
  | cons w ws ih =>
    cases cs with
    | nil => simp [readWord, fail] at h
    | cons c cs =>
      simp only [readWord] at h
      split at h
      · obtain ⟨ha, hrest⟩ := ih h
        exact ⟨ha, hrest.trans (List.suffix_cons c cs)⟩
      · simp [fail] at h

section Numbers

variable {neg : Bool} {n : Nat} {e : Int} {cs rest : List Char} {x : Number}

theorem takeDigits_suffix (cs : List Char) (n count : Nat) :
    (takeDigits cs n count).2.2 <:+ cs := by
  induction cs generalizing n count with
  | nil => exact List.suffix_refl []
  | cons c cs ih =>
    rw [takeDigits]
    split
    · split
      · exact (ih _ _).trans (List.suffix_cons c cs)
      · exact List.suffix_refl _
    · exact List.suffix_refl _

theorem skipDigits_suffix (cs : List Char) (count : Nat) : (skipDigits cs count).2 <:+ cs := by
  induction cs generalizing count with
  | nil => exact List.suffix_refl []
  | cons c cs ih =>
    rw [skipDigits]
    split
    · exact (ih _).trans (List.suffix_cons c cs)
    · exact List.suffix_refl _

/-- The digits that count, and those past the limit. -/
theorem skipDigits_takeDigits_suffix (cs : List Char) (n : Nat) :
    (skipDigits (takeDigits cs n 0).2.2 0).2 <:+ cs :=
  (skipDigits_suffix _ 0).trans (takeDigits_suffix cs n 0)

theorem takeExponent_suffix (cs : List Char) (x : Nat) : (takeExponent cs x).2 <:+ cs := by
  induction cs generalizing x with
  | nil => exact List.suffix_refl []
  | cons c cs ih =>
    rw [takeExponent]
    split
    · split
      · exact (ih _).trans (List.suffix_cons c cs)
      · exact List.suffix_refl _
    · exact List.suffix_refl _

theorem finishFloat_rest (h : finishFloat neg n e cs = .ok (x, rest)) : rest = cs := by
  rw [finishFloat] at h
  split at h
  · simp only [Except.ok.injEq, Prod.mk.injEq] at h
    exact h.2.symm
  · simp [fail] at h

theorem readExponent_suffix (h : readExponent neg n e cs = .ok (x, rest)) : rest <:+ cs := by
  revert h
  fun_cases readExponent neg n e cs with
  | case1 => simp [fail]
  | case2 => simp [fail]
  | case3 down c ds d hd y left hsign htake =>
    intro h
    have hds : c :: ds <:+ cs := by grind [List.suffix_cons]
    have hleft := takeExponent_suffix (c :: ds) 0
    simp only [htake] at h hleft
    exact finishFloat_rest h ▸ hleft.trans hds
  | case4 down c ds d hd left hn hsign htake => simp [htake, hn, fail]
  | case5 down c ds d hd left hn hsign htake =>
    intro h
    have hds : c :: ds <:+ cs := by grind [List.suffix_cons]
    have hleft := takeExponent_suffix (c :: ds) 0
    simp only [htake, if_neg hn, Except.ok.injEq, Prod.mk.injEq] at h hleft
    exact h.2 ▸ (skipDigits_suffix left 0).trans (hleft.trans hds)

theorem readTail_suffix (h : readTail neg n e cs = .ok (x, rest)) : rest <:+ cs := by
  unfold readTail at h
  split at h
  · exact (readExponent_suffix h).trans (List.suffix_cons _ _)
  · exact (readExponent_suffix h).trans (List.suffix_cons _ _)
  · exact finishFloat_rest h ▸ List.suffix_refl cs

theorem readFraction_suffix (h : readFraction neg n e cs = .ok (x, rest)) : rest <:+ cs := by
  have hleft := skipDigits_takeDigits_suffix cs n
  unfold readFraction at h
  generalize takeDigits cs n 0 = taken at h hleft
  obtain ⟨m, count, afterTaken⟩ := taken
  dsimp only at h hleft
  generalize skipDigits afterTaken 0 = skipped at h hleft
  split at h
  · split at h
    · -- there was no digit
      split at h
      · cases h
      · cases h
    · exact (readTail_suffix h).trans hleft
  · exact (readTail_suffix h).trans hleft

theorem readNumber_suffix (h : readNumber neg cs = .ok (x, rest)) : rest <:+ cs := by
  unfold readNumber at h
  split at h
  · cases h
  · rename_i left
    have hzero : left <:+ '0' :: left := List.suffix_cons _ _
    split at h
    · exact (readFraction_suffix h).trans ((List.suffix_cons _ _).trans hzero)
    · exact (readExponent_suffix h).trans ((List.suffix_cons _ _).trans hzero)
    · exact (readExponent_suffix h).trans ((List.suffix_cons _ _).trans hzero)
    · split at h
      · cases h
      · cases h
        exact hzero
    · cases h
      exact hzero
  · have hleft := skipDigits_takeDigits_suffix cs 0
    generalize takeDigits cs 0 0 = taken at h hleft
    obtain ⟨n, count, afterTaken⟩ := taken
    dsimp only at h hleft
    generalize skipDigits afterTaken 0 = skipped at h hleft
    split at h
    · cases h
    · -- what stands after the digits decides who reads on
      split at h
      · exact (readFraction_suffix h).trans ((List.suffix_cons _ _).trans hleft)
      · split at h
        · exact (readExponent_suffix h).trans ((List.suffix_cons _ _).trans hleft)
        · exact (readExponent_suffix h).trans ((List.suffix_cons _ _).trans hleft)
        · cases h
          exact hleft
      · exact (readTail_suffix h).trans hleft

end Numbers

section Strings

variable {cs rest : List Char} {c : Char}

theorem readHex4_suffix {n : Nat} (h : readHex4 cs = .ok (n, rest)) : rest <:+ cs := by
  unfold readHex4 at h
  split at h
  · rename_i a b c d left
    split at h
    · cases h
      exact ⟨[a, b, c, d], rfl⟩
    · cases h
  · split at h
    · cases h
    · cases h

theorem expectOfPair_suffix (h : expectOfPair c cs = .ok rest) : rest <:+ cs := by
  unfold expectOfPair at h
  split at h
  · cases h
  · split at h
    · cases h
      exact List.suffix_cons _ _
    · cases h

theorem readUnits_suffix (h : readUnits cs = .ok (c, rest)) : rest <:+ cs := by
  unfold readUnits at h
  split at h
  · cases h
  · rename_i n left hfirst
    have hleft := readHex4_suffix hfirst
    split at h
    · cases h
    · split at h
      · -- a unit that starts a pair is followed by a second escape
        split at h
        · cases h
        · rename_i afterSlash hslash
          split at h
          · cases h
          · rename_i afterLetter hletter
            split at h
            · cases h
            · rename_i m afterSecond hsecond
              split at h
              · have hpair := (expectOfPair_suffix hletter).trans (expectOfPair_suffix hslash)
                simp only [Except.ok.injEq, Prod.mk.injEq] at h
                exact h.2 ▸ (readHex4_suffix hsecond).trans (hpair.trans hleft)
              · cases h
      · cases h
        exact hleft

theorem readEscape_suffix (h : readEscape cs = .ok (c, rest)) : rest <:+ cs := by
  unfold readEscape at h
  split at h
  case h_10 => exact (readUnits_suffix h).trans (List.suffix_cons _ _)
  all_goals
    cases h
    try exact List.suffix_cons _ _

theorem readString_suffix {fuel : Nat} {acc : List Char} {s : String}
    (h : readString fuel acc cs = .ok (s, rest)) : rest <:+ cs := by
  induction fuel generalizing acc cs with
  | zero =>
    simp only [readString, Except.ok.injEq, Prod.mk.injEq] at h
    exact h.2 ▸ List.suffix_refl cs
  | succ fuel ih =>
    unfold readString at h
    split at h
    · cases h
    · cases h
      exact List.suffix_cons _ _
    · split at h
      · cases h
      · rename_i hescape
        exact (ih h).trans ((readEscape_suffix hescape).trans (List.suffix_cons _ _))
    · split at h
      · cases h
      · exact (ih h).trans (List.suffix_cons _ _)

end Strings

theorem readScalar_suffix {size : Nat} {cs rest : List Char} {v : Value}
    (h : readScalar size cs = .ok (v, rest)) : rest <:+ cs := by
  unfold readScalar at h
  split at h
  · cases h
  · exact (readWord_ok h).2.trans (List.suffix_cons _ _)
  · exact (readWord_ok h).2.trans (List.suffix_cons _ _)
  · exact (readWord_ok h).2.trans (List.suffix_cons _ _)
  · split at h
    · cases h
    · rename_i hstring
      cases h
      exact (readString_suffix hstring).trans (List.suffix_cons _ _)
  · split at h
    · cases h
    · rename_i hnumber
      cases h
      exact (readNumber_suffix hnumber).trans (List.suffix_cons _ _)
  · split at h
    · split at h
      · cases h
      · rename_i hnumber
        cases h
        exact readNumber_suffix hnumber
    · cases h

/-! ## Between items and members -/

section Ahead

variable {first : Bool} {cs rest : List Char}

/-- Past a character that stands after blanks, and past the blanks after that. -/
theorem skipSpace_tail_suffix {c : Char} (h : skipSpace cs = c :: rest) :
    skipSpace rest <:+ cs := by
  have hskip := skipSpace_suffix cs
  rw [h] at hskip
  exact (skipSpace_suffix rest).trans ((List.suffix_cons c rest).trans hskip)

theorem nextItem_done_suffix (h : nextItem first cs = .ok (.done rest)) : rest <:+ cs := by
  have hskip := skipSpace_suffix cs
  unfold nextItem at h
  split at h
  · cases h
  · rename_i heq
    cases h
    exact (List.suffix_cons _ _).trans (heq ▸ hskip)
  · split at h
    · cases h
    · split at h
      · split at h <;> cases h
      · cases h

theorem nextItem_more_suffix (h : nextItem first cs = .ok (.more rest)) : rest <:+ cs := by
  unfold nextItem at h
  split at h
  · cases h
  · cases h
  · rename_i heq
    split at h
    · cases h
      exact heq ▸ skipSpace_suffix cs
    · split at h
      · -- past the comma there are blanks, and then the item
        split at h
        · cases h
        · cases h
        · cases h
          exact skipSpace_tail_suffix heq
      · cases h

/-- Before an item that is not the first there is at least a comma. -/
theorem nextItem_false_length (h : nextItem false cs = .ok (.more rest)) :
    rest.length < cs.length := by
  have hskip := (skipSpace_suffix cs).length_le
  unfold nextItem at h
  split at h
  · cases h
  · cases h
  · rename_i c left _ heq
    rw [heq, List.length_cons] at hskip
    have hafter := (skipSpace_suffix left).length_le
    rw [if_neg Bool.false_ne_true] at h
    split at h
    · split at h
      · cases h
      · cases h
      · cases h
        omega
    · cases h

theorem nextKey_done_suffix (h : nextKey first cs = .ok (.done rest)) : rest <:+ cs := by
  have hskip := skipSpace_suffix cs
  unfold nextKey at h
  split at h
  · cases h
  · rename_i heq
    cases h
    exact (List.suffix_cons _ _).trans (heq ▸ hskip)
  · split at h
    · split at h <;> cases h
    · split at h
      · split at h <;> cases h
      · cases h

/-- Before a key there is at least its quote. -/
theorem nextKey_more_suffix (h : nextKey first cs = .ok (.more rest)) : '"' :: rest <:+ cs := by
  unfold nextKey at h
  split at h
  · cases h
  · cases h
  · rename_i heq
    split at h
    · split at h
      · rename_i hquote
        cases h
        rw [hquote] at heq
        exact heq ▸ skipSpace_suffix cs
      · cases h
    · split at h
      · -- past the comma there are blanks, and then the quote
        split at h
        · cases h
        · rename_i hquote
          cases h
          exact hquote ▸ skipSpace_tail_suffix heq
        · cases h
        · cases h
      · cases h

theorem passColon_suffix (h : passColon cs = .ok rest) : rest <:+ cs := by
  have hskip := skipSpace_suffix cs
  unfold passColon at h
  split at h
  · cases h
  · rename_i heq
    cases h
    exact (List.suffix_cons _ _).trans (heq ▸ hskip)
  · cases h

end Ahead

/-! ## Lists of items and members -/

/-- A reader takes characters from the front of a text. -/
def TakesFront (read : List Char → Reading α) : Prop :=
  ∀ cs v rest, read cs = .ok (v, rest) → rest <:+ cs

/-- The items that stand before the end of a list, up to and with that end. -/
inductive Items (item : List Char → Reading α) : Bool → List Char → List α → List Char → Prop
  | done : nextItem first cs = .ok (.done rest) → Items item first cs [] rest
  | more : nextItem first cs = .ok (.more cs₁) → item cs₁ = .ok (v, cs₂) →
      Items item false cs₂ vs rest → Items item first cs (v :: vs) rest

/-- The members that stand before the end of an object, up to and with that end. -/
inductive Members (item : List Char → Reading α) (size : Nat) :
    Bool → List Char → List (String × α) → List Char → Prop
  | done : nextKey first cs = .ok (.done rest) → Members item size first cs [] rest
  | more : nextKey first cs = .ok (.more cs₁) → readString size [] cs₁ = .ok (k, cs₂) →
      passColon cs₂ = .ok cs₃ → item cs₃ = .ok (v, cs₄) →
      Members item size false cs₄ ms rest → Members item size first cs ((k, v) :: ms) rest

section Loops

variable {item : List Char → Reading α} {size fuel : Nat} {first : Bool} {cs rest : List Char}

/-- One turn of the loop over items: it met the end, or it read one item and goes on. -/
theorem readItems_succ {acc ws : List α} :
    readItems item (fuel + 1) first acc cs = .ok (ws, rest) ↔
      (nextItem first cs = .ok (.done rest) ∧ ws = acc.reverse) ∨
      ∃ cs₁ v cs₂, nextItem first cs = .ok (.more cs₁) ∧ item cs₁ = .ok (v, cs₂) ∧
        readItems item fuel false (v :: acc) cs₂ = .ok (ws, rest) := by
  rw [readItems]
  cases hnext : nextItem first cs with
  | error f => simp
  | ok ahead =>
    cases ahead with
    | done left => simp [and_comm, eq_comm]
    | more left => cases hitem : item left <;> grind

/-- One turn of the loop over members: it met the end, or it read one member and goes on. -/
theorem readMembers_succ {acc ws : List (String × α)} :
    readMembers item size (fuel + 1) first acc cs = .ok (ws, rest) ↔
      (nextKey first cs = .ok (.done rest) ∧ ws = acc.reverse) ∨
      ∃ cs₁ k cs₂ cs₃ v cs₄, nextKey first cs = .ok (.more cs₁) ∧
        readString size [] cs₁ = .ok (k, cs₂) ∧ passColon cs₂ = .ok cs₃ ∧
        item cs₃ = .ok (v, cs₄) ∧
        readMembers item size fuel false ((k, v) :: acc) cs₄ = .ok (ws, rest) := by
  rw [readMembers]
  cases hnext : nextKey first cs with
  | error f => simp
  | ok ahead =>
    cases ahead with
    | done left => simp [and_comm, eq_comm]
    | more left =>
      cases hkey : readString size [] left with
      | error f => grind
      | ok key =>
        obtain ⟨k, afterKey⟩ := key
        cases hcolon : passColon afterKey with
        | error f => grind
        | ok afterColon => cases hitem : item afterColon <;> grind

theorem readItems_suffix (hitem : TakesFront item) {acc ws : List α}
    (h : readItems item fuel first acc cs = .ok (ws, rest)) : rest <:+ cs := by
  induction fuel generalizing first acc cs with
  | zero =>
    simp only [readItems, Except.ok.injEq, Prod.mk.injEq] at h
    exact h.2 ▸ List.suffix_refl cs
  | succ fuel ih =>
    rcases readItems_succ.mp h with ⟨hdone, -⟩ | ⟨cs₁, v, cs₂, hmore, hread, hrec⟩
    · exact nextItem_done_suffix hdone
    · exact (ih hrec).trans ((hitem _ _ _ hread).trans (nextItem_more_suffix hmore))

theorem readMembers_suffix (hitem : TakesFront item) {acc ws : List (String × α)}
    (h : readMembers item size fuel first acc cs = .ok (ws, rest)) : rest <:+ cs := by
  induction fuel generalizing first acc cs with
  | zero =>
    simp only [readMembers, Except.ok.injEq, Prod.mk.injEq] at h
    exact h.2 ▸ List.suffix_refl cs
  | succ fuel ih =>
    rcases readMembers_succ.mp h with
      ⟨hdone, -⟩ | ⟨cs₁, k, cs₂, cs₃, v, cs₄, hmore, hkey, hcolon, hread, hrec⟩
    · exact nextKey_done_suffix hdone
    · have hfront : cs₁ <:+ cs := (List.suffix_cons _ _).trans (nextKey_more_suffix hmore)
      have hvalue : cs₄ <:+ cs₁ :=
        (hitem _ _ _ hread).trans ((passColon_suffix hcolon).trans (readString_suffix hkey))
      exact (ih hrec).trans (hvalue.trans hfront)

/-- An item leaves less of the text than stood before it, or as much if it is the first. -/
theorem item_length (hitem : TakesFront item) {cs₁ cs₂ : List Char} {v : α}
    (hmore : nextItem first cs = .ok (.more cs₁)) (hread : item cs₁ = .ok (v, cs₂)) :
    cs₂.length < cs.length + first.toNat := by
  have hleft := (hitem _ _ _ hread).length_le
  cases first with
  | true =>
    have hfront := (nextItem_more_suffix hmore).length_le
    rw [Bool.toNat_true]
    omega
  | false =>
    have hfront := nextItem_false_length hmore
    rw [Bool.toNat_false]
    omega

/-- A member leaves less of the text than stood before it. -/
theorem member_length (hitem : TakesFront item) {cs₁ cs₂ cs₃ cs₄ : List Char} {k : String} {v : α}
    (hmore : nextKey first cs = .ok (.more cs₁)) (hkey : readString size [] cs₁ = .ok (k, cs₂))
    (hcolon : passColon cs₂ = .ok cs₃) (hread : item cs₃ = .ok (v, cs₄)) :
    cs₄.length < cs.length := by
  have hquote := (nextKey_more_suffix hmore).length_le
  have hafter := (readString_suffix hkey).length_le
  have hpassed := (passColon_suffix hcolon).length_le
  have hleft := (hitem _ _ _ hread).length_le
  rw [List.length_cons] at hquote
  omega

/-- With more fuel than characters the loop over items reads what stands there. Each turn but the
first takes a comma, hence the one more that the first turn needs. -/
theorem readItems_eq_ok_iff (hitem : TakesFront item) {acc ws : List α}
    (hfuel : cs.length + first.toNat < fuel) :
    readItems item fuel first acc cs = .ok (ws, rest) ↔
      ∃ vs, ws = acc.reverse ++ vs ∧ Items item first cs vs rest := by
  induction fuel generalizing first acc cs with
  | zero => omega
  | succ fuel ih =>
    have hnext : ∀ {cs₁ v cs₂}, nextItem first cs = .ok (.more cs₁) →
        item cs₁ = .ok (v, cs₂) → cs₂.length + false.toNat < fuel := by
      intro cs₁ v cs₂ hmore hread
      have hless := item_length hitem hmore hread
      rw [Bool.toNat_false]
      omega
    rw [readItems_succ]
    constructor
    · rintro (⟨hdone, rfl⟩ | ⟨cs₁, v, cs₂, hmore, hread, hrec⟩)
      · exact ⟨[], by simp, .done hdone⟩
      · obtain ⟨vs, rfl, hvs⟩ := (ih (hnext hmore hread)).mp hrec
        exact ⟨v :: vs, by simp, .more hmore hread hvs⟩
    · rintro ⟨vs, rfl, hvs⟩
      cases hvs with
      | done hdone => exact .inl ⟨hdone, by simp⟩
      | more hmore hread hvs =>
        exact .inr ⟨_, _, _, hmore, hread, (ih (hnext hmore hread)).mpr ⟨_, by simp, hvs⟩⟩

/-- With more fuel than characters the loop over members reads what stands there. -/
theorem readMembers_eq_ok_iff (hitem : TakesFront item) {acc ws : List (String × α)}
    (hfuel : cs.length < fuel) :
    readMembers item size fuel first acc cs = .ok (ws, rest) ↔
      ∃ ms, ws = acc.reverse ++ ms ∧ Members item size first cs ms rest := by
  induction fuel generalizing first acc cs with
  | zero => omega
  | succ fuel ih =>
    rw [readMembers_succ]
    constructor
    · rintro (⟨hdone, rfl⟩ | ⟨cs₁, k, cs₂, cs₃, v, cs₄, hmore, hkey, hcolon, hread, hrec⟩)
      · exact ⟨[], by simp, .done hdone⟩
      · have hless := member_length hitem hmore hkey hcolon hread
        obtain ⟨ms, rfl, hms⟩ := (ih (by omega)).mp hrec
        exact ⟨(k, v) :: ms, by simp, .more hmore hkey hcolon hread hms⟩
    · rintro ⟨ms, rfl, hms⟩
      cases hms with
      | done hdone => exact .inl ⟨hdone, by simp⟩
      | more hmore hkey hcolon hread hms =>
        have hless := member_length hitem hmore hkey hcolon hread
        exact .inr ⟨_, _, _, _, _, _, hmore, hkey, hcolon, hread,
          (ih (by omega)).mpr ⟨_, by simp, hms⟩⟩

end Loops

/-! ## Values -/

section Values

variable {size depth : Nat} {cs rest : List Char} {v : Value}

theorem readScalar_bracket (size : Nat) (cs : List Char) :
    readScalar size ('[' :: cs) = fail .expectedValue ('[' :: cs) 1 := rfl

theorem readScalar_brace (size : Nat) (cs : List Char) :
    readScalar size ('{' :: cs) = fail .expectedValue ('{' :: cs) 1 := rfl

/-- A value is an array, an object or a scalar, and its first character tells which. -/
theorem readValue_eq_ok_iff :
    readValue size depth cs = .ok (v, rest) ↔
      (∃ inner d vs, skipSpace cs = '[' :: inner ∧ depth = d + 1 ∧
        readItems (readValue size d) size true [] inner = .ok (vs, rest) ∧ v = .array vs) ∨
      (∃ inner d ms, skipSpace cs = '{' :: inner ∧ depth = d + 1 ∧
        readMembers (readValue size d) size size true [] inner = .ok (ms, rest) ∧
        v = .object ms) ∨
      readScalar size (skipSpace cs) = .ok (v, rest) := by
  unfold readValue
  split
  · rename_i inner hskip
    cases depth with
    | zero => simp [hskip, readScalar_bracket, fail]
    | succ d =>
      cases hread : readItems (readValue size d) size true [] inner <;>
        grind [readScalar_bracket, fail]
  · rename_i inner hskip
    cases depth with
    | zero => simp [hskip, readScalar_brace, fail]
    | succ d =>
      cases hread : readMembers (readValue size d) size size true [] inner <;>
        grind [readScalar_brace, fail]
  · rename_i hlist hobject
    constructor
    · intro h
      exact .inr (.inr h)
    · rintro (⟨inner, d, vs, hskip, -⟩ | ⟨inner, d, ms, hskip, -⟩ | h)
      · exact absurd hskip (hlist inner)
      · exact absurd hskip (hobject inner)
      · exact h

theorem readValue_takesFront (size depth : Nat) : TakesFront (readValue size depth) := by
  intro cs v rest h
  -- what stands in a bracket or a brace is read with one level less
  induction depth using Nat.strongRecOn generalizing cs v rest with
  | _ depth ih =>
    have hskip := skipSpace_suffix cs
    rcases readValue_eq_ok_iff.mp h with
      ⟨inner, d, vs, hinner, rfl, hread, -⟩ | ⟨inner, d, ms, hinner, rfl, hread, -⟩ | hread
    · rw [hinner] at hskip
      have hrest := readItems_suffix (ih d (by omega)) hread
      exact hrest.trans ((List.suffix_cons _ _).trans hskip)
    · rw [hinner] at hskip
      have hrest := readMembers_suffix (ih d (by omega)) hread
      exact hrest.trans ((List.suffix_cons _ _).trans hskip)
    · exact (readScalar_suffix hread).trans hskip

/-- A list in a text shorter than `size` holds the items that stand after its bracket. -/
theorem readValue_array_iff {inner : List Char} (hsize : cs.length < size)
    (hskip : skipSpace cs = '[' :: inner) :
    readValue size (depth + 1) cs = .ok (v, rest) ↔
      ∃ vs, v = .array vs ∧ Items (readValue size depth) true inner vs rest := by
  have hfuel : inner.length + true.toNat < size := by
    have hlength := (skipSpace_suffix cs).length_le
    rw [hskip, List.length_cons] at hlength
    simp only [Bool.toNat_true]
    omega
  rw [readValue_eq_ok_iff]
  constructor
  · rintro (⟨inner', d, vs, hinner, hd, hread, rfl⟩ | ⟨inner', d, ms, hinner, -⟩ | hread)
    · cases hskip.symm.trans hinner
      cases hd
      obtain ⟨ws, rfl, hws⟩ :=
        (readItems_eq_ok_iff (readValue_takesFront size depth) hfuel).mp hread
      exact ⟨_, rfl, hws⟩
    · cases hskip.symm.trans hinner
    · simp [hskip, readScalar_bracket, fail] at hread
  · rintro ⟨vs, rfl, hvs⟩
    exact .inl ⟨inner, depth, vs, hskip, rfl,
      (readItems_eq_ok_iff (readValue_takesFront size depth) hfuel).mpr ⟨vs, rfl, hvs⟩, rfl⟩

/-- An object in a text shorter than `size` holds the members that stand after its brace. -/
theorem readValue_object_iff {inner : List Char} (hsize : cs.length < size)
    (hskip : skipSpace cs = '{' :: inner) :
    readValue size (depth + 1) cs = .ok (v, rest) ↔
      ∃ ms, v = .object ms ∧ Members (readValue size depth) size true inner ms rest := by
  have hfuel : inner.length < size := by
    have hlength := (skipSpace_suffix cs).length_le
    rw [hskip, List.length_cons] at hlength
    omega
  rw [readValue_eq_ok_iff]
  constructor
  · rintro (⟨inner', d, vs, hinner, -⟩ | ⟨inner', d, ms, hinner, hd, hread, rfl⟩ | hread)
    · cases hskip.symm.trans hinner
    · cases hskip.symm.trans hinner
      cases hd
      obtain ⟨ws, rfl, hws⟩ :=
        (readMembers_eq_ok_iff (readValue_takesFront size depth) hfuel).mp hread
      exact ⟨_, rfl, hws⟩
    · simp [hskip, readScalar_brace, fail] at hread
  · rintro ⟨ms, rfl, hms⟩
    exact .inr (.inl ⟨inner, depth, ms, hskip, rfl,
      (readMembers_eq_ok_iff (readValue_takesFront size depth) hfuel).mpr ⟨ms, rfl, hms⟩, rfl⟩)

/-- A scalar is no array and no object. -/
theorem readScalar_isScalar (h : readScalar size cs = .ok (v, rest)) :
    (∀ vs, v ≠ .array vs) ∧ ∀ ms, v ≠ .object ms := by
  unfold readScalar at h
  split at h
  · cases h
  iterate 3
    · obtain ⟨rfl, -⟩ := readWord_ok h
      simp
  iterate 2
    · split at h
      · cases h
      · cases h
        simp
  · split at h
    · split at h
      · cases h
      · cases h
        simp
    · cases h

end Values

/-! ## Canonical form -/

namespace Value

theorem canonicalItems_eq (vs acc : List Value) :
    canonicalItems vs acc = acc.reverse ++ vs.map canonical := by
  induction vs generalizing acc with
  | nil => simp [canonicalItems]
  | cons v vs ih => simp [canonicalItems, ih]

theorem canonicalMembers_eq (ms acc : List (String × Value)) :
    canonicalMembers ms acc = (ms.map fun m => (m.1, m.2.canonical)).reverse ++ acc := by
  induction ms generalizing acc with
  | nil => simp [canonicalMembers]
  | cons m ms ih =>
    obtain ⟨k, v⟩ := m
    simp [canonicalMembers, ih]

@[simp] theorem canonical_array (vs : List Value) :
    (Value.array vs).canonical = .array (vs.map canonical) := by
  simp [canonical, canonicalItems_eq]

/-- The members are added from the last to the first. -/
@[simp] theorem canonical_object (ms : List (String × Value)) :
    (Value.object ms).canonical =
      .object ((ms.map fun m => (m.1, m.2.canonical)).foldr (fun m => addMember m.1 m.2) []) := by
  simp [canonical, canonicalMembers_eq, List.foldl_reverse]

end Value

/-! ## Whole texts -/

def contents? (text : String) : Option Value :=
  match readValue (text.toList.length + 1) maxDepth text.toList with
  | .error _ => none
  | .ok (v, rest) =>
    match expectEnd rest with
    | .error _ => none
    | .ok () => some v

theorem contents?_eq_some_iff {text : String} {v : Value} :
    contents? text = some v ↔
      ∃ rest, readValue (text.toList.length + 1) maxDepth text.toList = .ok (v, rest) ∧
        expectEnd rest = .ok () := by
  unfold contents?
  cases readValue (text.toList.length + 1) maxDepth text.toList with
  | error f => simp
  | ok read =>
    obtain ⟨w, rest⟩ := read
    cases hend : expectEnd rest <;> grind

/-- What `parse` gives is the canonical form of what the text holds. -/
theorem parse_eq_ok_iff {text : String} {v : Value} :
    parse text = .ok v ↔ ∃ raw, contents? text = some raw ∧ v = raw.canonical := by
  simp only [parse, contents?]
  cases readValue (text.toList.length + 1) maxDepth text.toList with
  | error f => simp
  | ok read =>
    obtain ⟨w, rest⟩ := read
    cases hend : expectEnd rest <;> simp [hend, eq_comm]

end SocketGateway.Json
