import SocketGateway.Proofs.Layers
import SocketGateway.Proofs.Numerals

/-!
# What an override comes to

A variable of the environment is tried as a truth value, as an integer and as a double before it is
taken as it stands. So a text that looks like one of these is written again in its own way, a list of
one such item is refused, and a number that does not fit into 63 bits goes through a double. Everything
else is kept as it was given.
-/

namespace SocketGateway.Config

open SocketGateway.Decimal (Binary64 Layout mayCount)

/-! ## Guesses -/

namespace Environment

/-- What a text is taken for before it is taken as it stands. -/
def guess? (text : String) : Option Node :=
  if Decimal.lower text.toList = ['t', 'r', 'u', 'e'] then some (.bool true)
  else if Decimal.lower text.toList = ['f', 'a', 'l', 's', 'e'] then some (.bool false)
  else ((Decimal.int64Of? text).map .int).or ((Decimal.doubleOf? text).map .float)

/-- A text written again in the way of what it was taken for. -/
def rewritten (text : String) : String :=
  match guess? text with
  | some (.bool b) => truth b
  | some (.int i) => toString i
  | some (.float x) => Layout.plain.write x
  | _ => text

variable {key text : String} {n : Node} {o : Option Origin}

theorem nodeOf_eq : nodeOf key text = (guess? text).getD
    (if key = listKey then
      .array ((Text.split ',' text).map fun s => (some .environment, .string s))
    else .string text) := by
  unfold nodeOf guess?
  split
  · rename_i heq
    rw [if_pos heq]
    rfl
  · rename_i heq
    rw [if_neg (by rw [heq]; decide), if_pos heq]
    rfl
  · rename_i htrue hfalse
    rw [if_neg htrue, if_neg hfalse]
    cases Decimal.int64Of? text with
    | some i => rfl
    | none => cases Decimal.doubleOf? text <;> rfl

/-- A guess is a truth value, an integer or a double. -/
theorem guess?_cases (h : guess? text = some n) :
    (∃ b, n = .bool b) ∨ (∃ i, n = .int i) ∨ ∃ x, n = .float x := by
  unfold guess? at h
  split at h
  · cases h
    exact .inl ⟨true, rfl⟩
  · split at h
    · cases h
      exact .inl ⟨false, rfl⟩
    · rcases Option.or_eq_some_iff.mp h with hint | ⟨-, hdouble⟩
      · obtain ⟨i, -, rfl⟩ := Option.map_eq_some_iff.mp hint
        exact .inr (.inl ⟨i, rfl⟩)
      · obtain ⟨x, -, rfl⟩ := Option.map_eq_some_iff.mp hdouble
        exact .inr (.inr ⟨x, rfl⟩)

/-- A text with a character that is in no number and no word for one is not guessed at. -/
theorem guess?_eq_none {c : Char} (hc : mayCount c = false) (hmem : c ∈ text.toList) :
    guess? text = none := by
  rw [guess?, if_neg (Decimal.lower_ne_of_mayCount hc hmem (by decide)),
    if_neg (Decimal.lower_ne_of_mayCount hc hmem (by decide)), Decimal.int64Of?_eq_none hc hmem,
    Decimal.doubleOf?_eq_none hc hmem]
  rfl

/-- Digits are taken for an integer, or for a double where there is no room for that. -/
theorem guess?_repr (n : Nat) : guess? n.repr =
    some (if n < 2 ^ 63 then .int n else .float (.ofDecimal false n 0)) := by
  have hword : ∀ c cs, c.isDigit = false → Decimal.lower n.repr.toList ≠ c :: cs := by
    intro c cs hc heq
    rw [Nat.toList_repr, Decimal.lower_toDigits] at heq
    have hdigit := Json.isDigit_of_mem_toDigits c (heq ▸ List.mem_cons_self)
    cases hc.symm.trans hdigit
  rw [guess?, if_neg (hword _ _ rfl), if_neg (hword _ _ rfl), Decimal.int64Of?_repr,
    Decimal.doubleOf?_repr]
  split <;> rfl

theorem readText_nodeOf (hkey : key ≠ listKey) :
    readText (o, nodeOf key text) = .ok (rewritten text) := by
  rw [nodeOf_eq, rewritten, if_neg hkey]
  cases hguess : guess? text with
  | none => rfl
  | some n => obtain ⟨b, rfl⟩ | ⟨i, rfl⟩ | ⟨x, rfl⟩ := guess?_cases hguess <;> rfl

end Environment

namespace Setting

open Environment

/-! ## Texts for values -/

/-- The text for a value of a setting: a text as it stands, a list with commas, a number in digits. -/
def plain : (x : Setting) → x.Kind → String
  | host, s | restartEvent, s | logLevel, s => s
  | namespaces, ss => ",".intercalate ss
  | port, n => (UInt16.toNat n).repr
  | rebindAttempts, n => (UInt32.toNat n).repr
  | restartDelay, n | drainGrace, n | maxConnections, n | interval, n | timeout, n =>
    (UInt64.toNat n).repr

/-- Whether a list can be written with commas: it has items, and there are no commas in them. -/
def IsListable (ss : List String) : Prop := ss ≠ [] ∧ ∀ s ∈ ss, ',' ∉ s.toList

def HasText : (x : Setting) → x.Kind → Prop
  | namespaces, ss => IsListable ss
  | _, _ => True

/-- What a number of 64 bits comes to: the nearest multiple of 2048 if it does not fit into 63. -/
def nearest (n : UInt64) : UInt64 :=
  if n.toNat < 2 ^ 63 then n
  else UInt64.ofNat (min (2 ^ 64 - 1) (2048 * Binary64.divEven n.toNat 2048))

/-- **What the text for a value comes to**, if it is not refused. -/
def readBack : (x : Setting) → x.Kind → Option x.Kind
  | host, s | restartEvent, s | logLevel, s => some (rewritten s)
  | namespaces, ss => if (guess? (",".intercalate ss)).isSome then none else some ss
  | port, n | rebindAttempts, n => some n
  | restartDelay, n | drainGrace, n | maxConnections, n | interval, n | timeout, n => some (nearest n)

/-- **Whether a value is kept**: a text that is not rewritten, a list that is not one item for which
something is guessed, and a number that fits into 63 bits, or is a multiple of 2048 or the largest. -/
def IsKept : (x : Setting) → x.Kind → Prop
  | host, s | restartEvent, s | logLevel, s => rewritten s = s
  | namespaces, ss => ∀ s, ss = [s] → guess? s = none
  | port, _ | rebindAttempts, _ => True
  | restartDelay, n | drainGrace, n | maxConnections, n | interval, n | timeout, n =>
    UInt64.toNat n < 2 ^ 63 ∨ 2048 ∣ UInt64.toNat n ∨ UInt64.toNat n = 2 ^ 64 - 1

def alone : (x : Setting) → x.Kind → Settings
  | host, s => { Settings.default with host := s }
  | port, n => { Settings.default with port := n }
  | namespaces, ss => { Settings.default with namespaces := ss }
  | restartEvent, s => { Settings.default with restartEvent := s }
  | restartDelay, n => { Settings.default with restartDelay := n }
  | rebindAttempts, n => { Settings.default with rebindAttempts := n }
  | drainGrace, n => { Settings.default with drainGrace := n }
  | maxConnections, n => { Settings.default with maxConnections := n }
  | interval, n => { Settings.default with heartbeat.interval := n }
  | timeout, n => { Settings.default with heartbeat.timeout := n }
  | logLevel, s => { Settings.default with logLevel := s }

variable {x y : Setting} {k : x.Kind}

theorem get_alone : x.get (x.alone k) = k := by
  cases x <;> rfl

theorem get_alone_of_ne (h : y ≠ x) : y.get (x.alone k) = y.get Settings.default := by
  cases x <;> cases y <;> first | rfl | exact absurd rfl h

/-! ## Reading the texts -/

variable {key : String} {o : Option Origin}

theorem readNat_nodeOf {n : Nat} (h : n < 2 ^ 64) : readNat (o, nodeOf key n.repr) =
    .ok (if n < 2 ^ 63 then n else min (2 ^ 64 - 1) (2048 * Binary64.divEven n 2048)) := by
  rw [nodeOf_eq, guess?_repr, Option.getD_some]
  split
  · rw [readNat, if_neg (by omega)]
    rfl
  · rw [readNat, Binary64.clamp_ofDecimal (by omega) h]

theorem readNarrow_nodeOf {bits n : Nat} (hbits : bits ≤ 63) (h : n < 2 ^ bits) :
    readNarrow bits (o, nodeOf key n.repr) = .ok n := by
  have hsmall : n < 2 ^ 63 := h.trans_le (Nat.pow_le_pow_right (by decide) hbits)
  rw [readNarrow, readNat_nodeOf (by omega), if_pos hsmall]
  exact if_pos h

theorem map_readNat_nodeOf (n : UInt64) :
    (readNat (o, nodeOf key n.toNat.repr)).map Nat.toUInt64 = .ok (nearest n) := by
  rw [readNat_nodeOf n.toNat_lt, Except.map, nearest]
  split
  · rw [Nat.toUInt64, UInt64.ofNat_toNat]
  · rfl

/-- A list of several items has a comma. -/
theorem guess?_intercalate (s s' : String) (ss : List String) :
    guess? (",".intercalate (s :: s' :: ss)) = none := by
  refine guess?_eq_none (c := ',') (by decide) ?_
  rw [String.toList_intercalate]
  simp [List.intercalate_cons_cons]

theorem readItems_strings (ss : List String) (i : Nat) :
    readItems i (ss.map fun s => (some .environment, .string s)) = .ok ss := by
  induction ss generalizing i with
  | nil => rfl
  | cons s ss ih => simp [readItems, readText, ih]

theorem readTexts_nodeOf {ss : List String} (h : IsListable ss) (hkey : key = listKey) :
    (readTexts (o, nodeOf key (",".intercalate ss))).toOption =
      if (guess? (",".intercalate ss)).isSome then none else some ss := by
  rw [nodeOf_eq, if_pos hkey]
  cases hguess : guess? (",".intercalate ss) with
  | none =>
      have hsplit : Text.split ',' (",".intercalate ss) = ss := Text.split_intercalate h.1 h.2
      simp [readTexts, hsplit, readItems_strings, Except.toOption]
  | some n => obtain ⟨b, rfl⟩ | ⟨i, rfl⟩ | ⟨x, rfl⟩ := guess?_cases hguess <;> rfl

/-- **The text for a value is read** as what it comes to, or refused. -/
theorem read_plain {v : x.Kind} (h : x.HasText v) :
    (x.read (o, nodeOf x.key (x.plain v))).toOption = x.readBack v := by
  cases x with
  | host | restartEvent | logLevel => exact congrArg Except.toOption (readText_nodeOf (by decide))
  | namespaces => exact readTexts_nodeOf h (by decide)
  | port =>
      rw [read, plain, readNarrow_nodeOf (by decide) (UInt16.toNat_lt v)]
      exact congrArg some UInt16.ofNat_toNat
  | rebindAttempts =>
      rw [read, plain, readNarrow_nodeOf (by decide) (UInt32.toNat_lt v)]
      exact congrArg some UInt32.ofNat_toNat
  | restartDelay | drainGrace | maxConnections | interval | timeout =>
      exact congrArg Except.toOption (map_readNat_nodeOf v)

theorem nearest_eq_iff (n : UInt64) :
    nearest n = n ↔ n.toNat < 2 ^ 63 ∨ 2048 ∣ n.toNat ∨ n.toNat = 2 ^ 64 - 1 := by
  rw [nearest]
  split
  · rename_i hsmall
    exact iff_of_true rfl (.inl hsmall)
  · rename_i hlarge
    have hfits : min (2 ^ 64 - 1) (2048 * Binary64.divEven n.toNat 2048) < 2 ^ 64 := by omega
    rw [← UInt64.toNat_inj, UInt64.toNat_ofNat_of_lt' hfits,
      Binary64.min_divEven_eq_iff (Nat.le_of_not_lt hlarge) n.toNat_lt, or_iff_right hlarge]

theorem ite_guess?_eq_some_iff {ss : List String} (h : IsListable ss) :
    (if (guess? (",".intercalate ss)).isSome then none else some ss) = some ss ↔
      ∀ s, ss = [s] → guess? s = none := by
  have hguess : guess? (",".intercalate ss) = none ↔ ∀ s, ss = [s] → guess? s = none := by
    match ss with
    | [] => exact absurd rfl h.1
    | [s] => simp
    | s :: s' :: ss => exact iff_of_true (guess?_intercalate s s' ss) (by simp)
  rw [← hguess]
  cases guess? (",".intercalate ss) <;> simp

/-- What is kept comes back, and nothing else does. -/
theorem readBack_eq_some_iff {v : x.Kind} (h : x.HasText v) :
    x.readBack v = some v ↔ x.IsKept v := by
  cases x with
  | host | restartEvent | logLevel => exact Option.some_inj
  | namespaces => exact ite_guess?_eq_some_iff h
  | port | rebindAttempts => exact iff_of_true rfl trivial
  | restartDelay | drainGrace | maxConnections | interval | timeout =>
      exact Option.some_inj.trans (nearest_eq_iff v)

end Setting

open Environment

variable {x : Setting} {name text : String}

/-! ## Loading one variable -/

theorem isTidy_singleton (h : isOf x name = true) : Environment.IsTidy [(name, text)] := by
  refine ⟨fun e he _ => ⟨x, ?_⟩, List.pairwise_singleton _ _⟩
  rw [List.mem_singleton.mp he]
  exact h

theorem said?_singleton (h : isOf x name = true) (y : Setting) :
    (Value.empty.setAll (entries [(name, text)])).said? y =
      if x = y then some (some .environment, nodeOf x.key text) else none := by
  rw [said?_setAll_entries (isTidy_singleton h)]
  have hempty : Value.empty.said? y = none := rfl
  rw [hempty, Option.or_none]
  split
  · rename_i heq
    subst heq
    simp [Environment.said?, textOf?, h]
  · rename_i hne
    have hother : isOf y name = false := Bool.eq_false_iff.mpr fun hy => hne (eq_of_isOf h hy)
    simp [Environment.said?, textOf?, hother]

/-- Every setting but that of the variable is as by default. -/
theorem ofTree_singleton (h : isOf x name = true) {t : Settings} :
    Settings.ofTree (Value.empty.setAll (entries [(name, text)])) = .ok t ↔
      ∃ k, x.read (some .environment, nodeOf x.key text) = .ok k ∧ t = x.alone k := by
  have htables : (Value.empty.setAll (entries [(name, text)])).HasTables :=
    Value.HasTables.setAll_entries (fun _ _ hv => by cases hv) (isTidy_singleton h)
  rw [ofTree_eq_ok_iff htables]
  simp only [said?_singleton h]
  constructor
  · intro hall
    have hx := hall x
    rw [if_pos rfl] at hx
    refine ⟨x.get t, hx, Setting.ext_get fun y => ?_⟩
    by_cases hxy : x = y
    · subst hxy
      exact Setting.get_alone.symm
    · have hy := hall y
      rw [if_neg hxy] at hy
      rw [Setting.get_alone_of_ne (Ne.symm hxy)]
      exact (Except.ok.inj hy).symm
  · rintro ⟨k, hread, rfl⟩ y
    by_cases hxy : x = y
    · subst hxy
      rw [if_pos rfl, Setting.get_alone]
      exact hread
    · rw [if_neg hxy, Setting.get_alone_of_ne (Ne.symm hxy)]
      rfl

theorem load_none (env : Environment) : load none env =
    Settings.ofTree (Value.empty.setAll env.entries) >>= fun t =>
      t.heartbeat.validate.map fun _ => t := by
  show (Settings.ofTree (Value.empty.setAll env.entries) >>= fun t =>
    t.heartbeat.validate >>= fun _ => .ok t) = _
  congr 1

theorem load_singleton_of_ok (h : isOf x name = true) {k : x.Kind}
    (hread : x.read (some .environment, nodeOf x.key text) = .ok k) :
    load none [(name, text)] = (x.alone k).heartbeat.validate.map fun _ => x.alone k := by
  rw [load_none, (ofTree_singleton h).mpr ⟨k, hread, rfl⟩]
  rfl

theorem load_singleton_of_error (h : isOf x name = true)
    (hread : (x.read (some .environment, nodeOf x.key text)).toOption = none) :
    ∃ e, load none [(name, text)] = .error e := by
  rw [load_none]
  cases htree : Settings.ofTree (Value.empty.setAll (entries [(name, text)])) with
  | error e => exact ⟨e, rfl⟩
  | ok t =>
      obtain ⟨k, hk, -⟩ := (ofTree_singleton h).mp htree
      rw [hk] at hread
      cases hread

/-- What the text for a value comes to is loaded, and everything else is as by default. -/
theorem load_plain (h : isOf x name = true) {v k : x.Kind} (hv : x.HasText v)
    (hk : x.readBack v = some k) : ∃ t, x.get t = k ∧
      (∀ y, y ≠ x → y.get t = y.get Settings.default) ∧
      load none [(name, x.plain v)] = t.heartbeat.validate.map fun _ => t := by
  refine ⟨x.alone k, Setting.get_alone, fun y hy => Setting.get_alone_of_ne hy, ?_⟩
  refine load_singleton_of_ok h ?_
  have hread := (Setting.read_plain (o := some .environment) hv).trans hk
  cases hresult : x.read (some .environment, nodeOf x.key (x.plain v)) with
  | ok k' =>
      rw [hresult] at hread
      exact congrArg Except.ok (Option.some.inj hread)
  | error e =>
      rw [hresult] at hread
      cases hread

/-! ## The main result -/

/-- **What an override comes to.** Take any setting and any value of it that has a text, and load with
no file and no variable but that of the setting, in any spelling of its name, with that text.

* A value that is kept is loaded as it is, with everything else as by default, unless the heartbeat is
  refused. Kept are a text that is not rewritten as a truth value or number, a list that is not one
  item that looks like one, every number below 2 to the power of 63, and of the larger ones the
  multiples of 2048 and the largest.
* Any other value is loaded as something else, in the same way: a text rewritten, a number as the
  nearest multiple of 2048; and a list is refused.
* A text is kept if any character of it can be in no number and in no word for one. -/
theorem override_kept_iff (h : isOf x name = true) {v : x.Kind} (hv : x.HasText v) :
    (x.IsKept v → ∃ t, x.get t = v ∧ (∀ y, y ≠ x → y.get t = y.get Settings.default) ∧
      load none [(name, x.plain v)] = t.heartbeat.validate.map fun _ => t) ∧
    (¬x.IsKept v →
      (∀ k, x.readBack v = some k → k ≠ v ∧ ∃ t, x.get t = k ∧
        (∀ y, y ≠ x → y.get t = y.get Settings.default) ∧
        load none [(name, x.plain v)] = t.heartbeat.validate.map fun _ => t) ∧
      (x.readBack v = none → ∃ e, load none [(name, x.plain v)] = .error e)) ∧
    ∀ s : String, ∀ c ∈ s.toList, mayCount c = false → rewritten s = s := by
  refine ⟨fun hkept => ?_, fun hlost => ⟨fun k hk => ⟨?_, ?_⟩, fun hnone => ?_⟩, ?_⟩
  · exact load_plain h hv ((Setting.readBack_eq_some_iff hv).mpr hkept)
  · rintro rfl
    exact hlost ((Setting.readBack_eq_some_iff hv).mp hk)
  · exact load_plain h hv hk
  · exact load_singleton_of_error h ((Setting.read_plain hv).trans hnone)
  · intro s c hmem hc
    rw [rewritten, guess?_eq_none hc hmem]

/-- Two namespaces, one of which looks like a number, are kept; that one alone is refused. A number that
does not fit into 63 bits is loaded as its neighbour. -/
theorem override_kept_iff_numerals :
    (∃ t : Settings, t.namespaces = ["/a", "5"] ∧
      load none [("NSGATE_GATEWAY__NAMESPACES", "/a,5")] = t.heartbeat.validate.map fun _ => t) ∧
    (∃ e, load none [("NSGATE_GATEWAY__NAMESPACES", "5")] = .error e) ∧
    ∃ t : Settings, t.maxConnections = 9223372036854775808 ∧
      load none [("nsgate_gateway__max_connections", "9223372036854775809")] =
        t.heartbeat.validate.map fun _ => t := by
  have hlist : isOf .namespaces "NSGATE_GATEWAY__NAMESPACES" = true := by decide +kernel
  have hlimit : isOf .maxConnections "nsgate_gateway__max_connections" = true := by decide +kernel
  have htext : Setting.HasText .namespaces ["/a", "5"] := ⟨by decide, by decide⟩
  have htext' : Setting.HasText .namespaces ["5"] := ⟨by decide, by decide⟩
  have hkept : Setting.IsKept .namespaces ["/a", "5"] := fun s hs => by cases hs
  have hlost : ¬Setting.IsKept .namespaces ["5"] := fun h => absurd (h "5" rfl) (by decide +kernel)
  have hrounded : ¬Setting.IsKept .maxConnections (9223372036854775809 : UInt64) := by
    show ¬(_ ∨ _ ∨ _)
    decide +kernel
  have hguess : (guess? (",".intercalate ["5"])).isSome = true := by decide +kernel
  have hnone : Setting.readBack .namespaces ["5"] = none := by
    simp only [Setting.readBack, hguess, if_true]
  have hneighbour : Setting.nearest 9223372036854775809 = 9223372036854775808 := by decide +kernel
  have hnearest : Setting.readBack .maxConnections (9223372036854775809 : UInt64) =
      some (9223372036854775808 : UInt64) := congrArg some hneighbour
  obtain ⟨t, hget, -, hload⟩ := (override_kept_iff hlist htext).1 hkept
  obtain ⟨e, herror⟩ := ((override_kept_iff hlist htext').2.1 hlost).2 hnone
  obtain ⟨-, t', hget', -, hload'⟩ :=
    ((override_kept_iff hlimit (v := (9223372036854775809 : UInt64)) trivial).2.1 hrounded).1 _ hnearest
  exact ⟨⟨t, hget, hload⟩, ⟨e, herror⟩, t', hget', hload'⟩

/-- **Not every value is loaded as it is**: a host that looks like a number is loaded as another text,
and no heartbeat is to blame. -/
theorem not_kept_whole_number :
    load none [("NSGATE_SERVER__HOST", "1.0")] = .ok { Settings.default with host := "1" } ∧
    ¬∀ (x : Setting) name (v : x.Kind), isOf x name = true → x.HasText v →
      (∃ t, load none [(name, x.plain v)] = .ok t ∧ x.get t = v) ∨
        load none [(name, x.plain v)] = .error .zeroInterval ∨
        load none [(name, x.plain v)] = .error .deadlineOverflow := by
  have hname : isOf .host "NSGATE_SERVER__HOST" = true := by decide +kernel
  have hrewritten : rewritten "1.0" = "1" := by decide +kernel
  have hkey : Setting.host.key ≠ listKey := by decide
  have hread : Setting.host.read (some .environment, nodeOf Setting.host.key "1.0") =
      .ok (rewritten "1.0") := by
    show readText (some .environment, nodeOf Setting.host.key "1.0") = _
    exact readText_nodeOf hkey
  have hload : load none [("NSGATE_SERVER__HOST", "1.0")] =
      .ok { Settings.default with host := "1" } := by
    rw [load_singleton_of_ok hname hread, hrewritten]
    rfl
  refine ⟨hload, fun hall => ?_⟩
  have hplain : Setting.host.plain "1.0" = "1.0" := rfl
  have hhost := hall .host "NSGATE_SERVER__HOST" "1.0" hname trivial
  rw [hplain, hload] at hhost
  obtain ⟨t, ht, hget⟩ | hzero | hover := hhost
  · cases ht
    have hsame : "1" = "1.0" := hget
    exact absurd hsame (by decide)
  · cases hzero
  · cases hover

end SocketGateway.Config
