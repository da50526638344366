import SocketGateway.Proofs.Names

/-!
# The normal form of names

A name in normal form is the root, or a slash and something behind it that neither begins nor ends with
a slash. Every path names a namespace of that form, and every name of that form comes of some path: of
itself with a slash behind it, which also keeps a blank that the name may end in. Blanks around a path do
not matter. Slashes around it do not matter either, as long as no blank stands at an end of what they
surround.
-/

namespace SocketGateway

namespace Text

variable {p : Char → Bool} {before cs after : List Char}

/-! ## Ends without a class -/

/-- **No character of a class stands at an end** of a text: it does not begin with one, nor does it end
with one. -/
structure IsTight (p : Char → Bool) (cs : List Char) : Prop where
  head : cs.head?.any p = false
  last : cs.getLast?.any p = false

theorem isTight_of_forall (h : ∀ c ∈ cs, p c = false) : IsTight p cs := by
  constructor
  · cases hhead : cs.head? with
    | none => rfl
    | some c => exact h c (List.mem_of_head? hhead)
  · cases hlast : cs.getLast? with
    | none => rfl
    | some c => exact h c (List.mem_of_getLast? hlast)

theorem IsTight.append (hcs : IsTight p cs) (hafter : IsTight p after) : IsTight p (cs ++ after) := by
  constructor
  · rw [List.head?_append]
    cases hhead : cs.head? with
    | none => exact hafter.head
    | some c =>
        have hc := hcs.head
        rwa [hhead] at hc
  · rw [List.getLast?_append]
    cases hlast : after.getLast? with
    | none => exact hcs.last
    | some c =>
        have hc := hafter.last
        rwa [hlast] at hc

theorem dropWhile_eq_self_iff_head? : cs.dropWhile p = cs ↔ cs.head?.any p = false := by
  rw [List.dropWhile_eq_self_iff]
  cases cs with
  | nil => simp
  | cons c cs => simp

/-- Nothing is stripped from a text exactly if no character of the class stands at an end of it. -/
theorem strip_eq_self_iff : strip p cs = cs ↔ IsTight p cs := by
  constructor
  · intro h
    have hfront : cs.dropWhile p = cs := by
      have hstripped : (strip p cs).dropWhile p = strip p cs := dropWhile_strip
      rwa [h] at hstripped
    rw [strip, hfront] at h
    exact ⟨dropWhile_eq_self_iff_head?.mp hfront, stripEnd_eq_self_iff.mp h⟩
  · rintro ⟨hhead, hlast⟩
    rw [strip, dropWhile_eq_self_iff_head?.mpr hhead, stripEnd_eq_self_iff.mpr hlast]

/-! ## What stripping does not see -/

theorem stripEnd_append_of_all (h : ∀ c ∈ after, p c = true) :
    stripEnd p (cs ++ after) = stripEnd p cs := by
  have hreverse : ∀ c ∈ after.reverse, p c = true := by
    intro c hc
    exact h c (List.mem_reverse.mp hc)
  rw [stripEnd, List.reverse_append, List.dropWhile_append_of_pos hreverse, stripEnd]

/-- Characters of the class around a text are stripped with those at its ends. -/
theorem strip_surrounded (hbefore : ∀ c ∈ before, p c = true) (hafter : ∀ c ∈ after, p c = true) :
    strip p (before ++ cs ++ after) = strip p cs := by
  rw [strip, List.append_assoc, List.dropWhile_append_of_pos hbefore, List.dropWhile_append, strip]
  split
  · rename_i hnone
    -- nothing of the text is left, and so nothing of what is behind it
    have hgone : after.dropWhile p = [] := List.dropWhile_eq_nil_iff.mpr hafter
    rw [hgone, List.isEmpty_iff.mp hnone]
  · exact stripEnd_append_of_all hafter

end Text

namespace Namespace

open SocketGateway.Text

variable {path : String} {n : Namespace} {before cs after : List Char} {k m : Nat}

/-! ## The form -/

/-- **A name in normal form**: the root, or a slash and something behind it that neither begins nor ends
with a slash. -/
def IsNormal (n : Namespace) : Prop :=
  n = root ∨ ∃ t : String, n.text = "/" ++ t ∧ t ≠ "" ∧ IsTight (· == '/') t.toList

/-- What is behind the slash of a name in normal form has no slash to strip; for the root it is
nothing. -/
theorem isNormal_iff : n.IsNormal ↔
    ∃ inner, n.text.toList = '/' :: inner ∧ strip (· == '/') inner = inner := by
  constructor
  · rintro (rfl | ⟨t, htext, -, htight⟩)
    · exact ⟨[], rfl, rfl⟩
    · refine ⟨t.toList, ?_, strip_eq_self_iff.mpr htight⟩
      rw [htext, String.toList_append]
      rfl
  · rintro ⟨inner, htext, hstrip⟩
    have hname : n.text = "/" ++ String.ofList inner := by
      apply String.toList_inj.mp
      rw [htext, String.toList_append, String.toList_ofList, String.toList_ofList,
        List.singleton_append]
    cases inner with
    | nil =>
        left
        cases n
        exact congrArg mk hname
    | cons c inner =>
        right
        refine ⟨String.ofList (c :: inner), hname, ?_, ?_⟩
        · intro hempty
          have hnil := congrArg String.toList hempty
          rw [String.toList_ofList] at hnil
          cases hnil
        · rw [String.toList_ofList]
          exact strip_eq_self_iff.mp hstrip

/-! ## Names and paths -/

theorem parse_eq_iff : parse path = n ↔ n.text.toList = '/' :: core path.toList := by
  rw [← toList_text_parse, String.toList_inj]
  constructor
  · rintro rfl
    rfl
  · intro h
    cases n
    exact (congrArg mk h).symm

theorem isNormal_parse : (parse path).IsNormal :=
  isNormal_iff.mpr ⟨core path.toList, toList_text_parse, strip_core⟩

/-- A name in normal form is read off itself, if a slash is put behind it. -/
theorem parse_append_slash_of_isNormal (h : n.IsNormal) : parse (n.text ++ "/") = n := by
  obtain ⟨inner, htext, hstrip⟩ := isNormal_iff.mp h
  rw [parse_eq_iff, String.toList_append, htext]
  have hcore : core ('/' :: (inner ++ ['/'])) = inner := core_between_slashes.trans hstrip
  exact (congrArg ('/' :: ·) hcore).symm

/-- **The namespaces that paths name are those in normal form.** -/
theorem exists_parse_eq_iff : (∃ path, parse path = n) ↔ n.IsNormal := by
  constructor
  · rintro ⟨path, rfl⟩
    exact isNormal_parse
  · intro h
    exact ⟨n.text ++ "/", parse_append_slash_of_isNormal h⟩

theorem head?_text_parse : (parse path).text.toList.head? = some '/' := by
  rw [toList_text_parse]
  rfl

/-- Only the root ends with a slash. -/
theorem getLast?_text_parse :
    (parse path).text.toList.getLast? = some '/' ↔ (parse path).isRoot = true := by
  have htight : IsTight (· == '/') (core path.toList) := strip_eq_self_iff.mp strip_core
  rw [isRoot, beq_iff_eq, ← String.toList_inj, toList_text_parse]
  cases hcore : core path.toList with
  | nil => exact iff_of_true rfl rfl
  | cons c inner =>
      rw [hcore] at htight
      rw [List.getLast?_cons_cons]
      constructor
      · intro hlast
        have hslash := htight.last
        rw [hlast] at hslash
        cases hslash
      · intro hroot
        cases hroot

/-! ## What surrounds a path -/

def slashes (k : Nat) : String := String.ofList (List.replicate k '/')

theorem eq_slash_of_mem_slashes {c : Char} (h : c ∈ (slashes k).toList) : c = '/' := by
  rw [slashes, String.toList_ofList] at h
  exact List.eq_of_mem_replicate h

/-- Blanks around a path do not matter. -/
theorem core_among_blanks (hbefore : ∀ c ∈ before, isBlank c = true)
    (hafter : ∀ c ∈ after, isBlank c = true) : core (before ++ cs ++ after) = core cs := by
  rw [core, strip_surrounded hbefore hafter, core]

/-- Slashes around a path do not matter, if there is no blank that they protect. -/
theorem core_among_slashes (h : IsTight isBlank cs) :
    core ((slashes k).toList ++ cs ++ (slashes m).toList) = core cs := by
  have hslash (i : Nat) : ∀ c ∈ (slashes i).toList, (c == '/') = true := by
    intro c hc
    exact beq_iff_eq.mpr (eq_slash_of_mem_slashes hc)
  have htight (i : Nat) : IsTight isBlank (slashes i).toList := by
    apply isTight_of_forall
    intro c hc
    rw [eq_slash_of_mem_slashes hc]
    decide
  have hsurrounded : IsTight isBlank ((slashes k).toList ++ cs ++ (slashes m).toList) :=
    ((htight k).append h).append (htight m)
  rw [core, strip_eq_self_iff.mpr hsurrounded, strip_surrounded (hslash k) (hslash m), core,
    strip_eq_self_iff.mpr h]

-- a blank at an end is lost alone, and kept behind a slash
example : parse " ops" = ⟨"/ops"⟩ ∧ parse (slashes 1 ++ " ops") = ⟨"/ ops"⟩ := by decide

/-! ## The main result -/

/-- **Paths name exactly the normal forms**, whatever characters are in them.

* A namespace is named by some path exactly if its name is the root, or a slash and something behind it
  that neither begins nor ends with a slash.
* So every name begins with a slash, and the root alone ends with one.
* Blanks around a path, of any kind and number, leave it a path to the same namespace.
* So do slashes around a path that has no blank at either end. -/
theorem paths_name_normal_forms :
    (∀ n : Namespace, (∃ path, parse path = n) ↔ n.IsNormal) ∧
    (∀ path, (parse path).text.toList.head? = some '/' ∧
      ((parse path).text.toList.getLast? = some '/' ↔ (parse path).isRoot = true)) ∧
    (∀ before path after : String, (∀ c ∈ before.toList, isBlank c = true) →
      (∀ c ∈ after.toList, isBlank c = true) → parse (before ++ path ++ after) = parse path) ∧
    ∀ (k m : Nat) (path : String), IsTight isBlank path.toList →
      parse (slashes k ++ path ++ slashes m) = parse path := by
  refine ⟨fun n => exists_parse_eq_iff, fun path => ⟨head?_text_parse, getLast?_text_parse⟩, ?_, ?_⟩
  · intro before path after hbefore hafter
    rw [parse_eq_parse_iff, String.toList_append, String.toList_append]
    exact core_among_blanks hbefore hafter
  · intro k m path htight
    rw [parse_eq_parse_iff, String.toList_append, String.toList_append]
    exact core_among_slashes htight

/-- A name with a blank behind its slash and another one at its end comes of a path; blanks of other
kinds around a path are ignored, and so are slashes. -/
theorem paths_name_normal_forms_spaced :
    (⟨"/ a/b\u00a0"⟩ : Namespace).IsNormal ∧ (∃ path, parse path = ⟨"/ a/b\u00a0"⟩) ∧
    (∀ c ∈ "\u2003\t".toList, isBlank c = true) ∧ (∀ c ∈ "\n\u3000".toList, isBlank c = true) ∧
    parse ("\u2003\t" ++ "/ ops /" ++ "\n\u3000") = parse "/ ops /" ∧
    IsTight isBlank "a b".toList ∧ parse (slashes 2 ++ "a b" ++ slashes 3) = parse "a b" := by
  obtain ⟨hnames, -, hblanks, hslashes⟩ := paths_name_normal_forms
  have hnormal : (⟨"/ a/b\u00a0"⟩ : Namespace).IsNormal :=
    .inr ⟨" a/b\u00a0", by decide, by decide, ⟨by decide, by decide⟩⟩
  have hbefore : ∀ c ∈ "\u2003\t".toList, isBlank c = true := List.all_eq_true.mp (by decide)
  have hafter : ∀ c ∈ "\n\u3000".toList, isBlank c = true := List.all_eq_true.mp (by decide)
  have htight : IsTight isBlank "a b".toList := ⟨by decide, by decide⟩
  exact ⟨hnormal, (hnames _).mpr hnormal, hbefore, hafter, hblanks _ _ _ hbefore hafter, htight,
    hslashes 2 3 "a b" htight⟩

end Namespace

end SocketGateway
