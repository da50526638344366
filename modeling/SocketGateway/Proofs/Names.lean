import Mathlib.Data.List.DropRight
import SocketGateway.Proofs.Routing

/-!
# Names of namespaces

The name of a namespace is a path, and so it names a namespace itself: that one again, unless it ends
in a blank. Blanks are removed from a path before slashes are, and a slash behind a blank protects it;
in the name the slash is gone, and the blank goes when the name is read as a path. What was registered
under such a name is not found by it. A slash behind the name leads back in every case.
-/

namespace SocketGateway

namespace Text

variable {p : Char → Bool} {c : Char} {cs : List Char}

/-! ## Stripping again -/

theorem dropWhile_strip : (strip p cs).dropWhile p = strip p cs := by
  rw [List.dropWhile_eq_self_iff]
  intro hpos
  -- the first character is the one at which dropping stopped
  have hprefix : strip p cs <+: cs.dropWhile p := List.rdropWhile_prefix p _
  have hlen : 0 < (cs.dropWhile p).length := Nat.lt_of_lt_of_le hpos hprefix.length_le
  have hfirst := List.dropWhile_get_zero_not p cs hlen
  have hsame : (strip p cs)[0] = (cs.dropWhile p)[0] := hprefix.getElem hpos
  rw [hsame]
  exact hfirst

/-- Stripping twice is stripping once. -/
theorem strip_strip : strip p (strip p cs) = strip p cs := by
  rw [strip, dropWhile_strip]
  exact List.rdropWhile_idempotent p (cs.dropWhile p)

theorem length_strip_le : (strip p cs).length ≤ cs.length := by
  have hprefix : strip p cs <+: cs.dropWhile p := List.rdropWhile_prefix p _
  exact hprefix.length_le.trans (List.length_dropWhile_le p cs)

theorem strip_cons_of_pos (h : p c = true) : strip p (c :: cs) = strip p cs := by
  rw [strip, List.dropWhile_cons_of_pos h, strip]

theorem stripEnd_cons_of_neg (h : p c = false) : stripEnd p (c :: cs) = c :: stripEnd p cs := by
  rw [stripEnd, List.reverse_cons, List.dropWhile_append]
  split
  · rename_i hnone
    rw [stripEnd, List.isEmpty_iff.mp hnone]
    simp [h]
  · simp [stripEnd]

/-- Nothing is stripped from an end that is not of the class. -/
theorem stripEnd_eq_self_iff : stripEnd p cs = cs ↔ cs.getLast?.any p = false := by
  refine List.rdropWhile_eq_self_iff.trans ?_
  cases hlast : cs.getLast? with
  | none => simp [List.getLast?_eq_none_iff.mp hlast]
  | some c =>
      have hne : cs ≠ [] := by
        rintro rfl
        cases hlast
      rw [List.getLast?_eq_some_getLast hne] at hlast
      rw [Option.any_some, ← Option.some.inj hlast]
      simp [hne]

end Text

namespace Namespace

open SocketGateway.Text

variable {path path' : String} {cs : List Char} {n : Namespace}

/-! ## Names as paths -/

def endsBlank (n : Namespace) : Bool := n.text.toList.getLast?.any isBlank

theorem toList_text_parse : (parse path).text.toList = '/' :: core path.toList := by
  unfold parse
  cases core path.toList with
  | nil => rfl
  | cons c cs => exact String.toList_ofList

theorem parse_eq_parse_iff : parse path = parse path' ↔ core path.toList = core path'.toList := by
  constructor
  · intro h
    have htext := congrArg (fun n => n.text.toList) h
    simp only [toList_text_parse] at htext
    exact (List.cons.inj htext).2
  · intro h
    unfold parse
    rw [h]

theorem strip_core : strip (· == '/') (core cs) = core cs := strip_strip

theorem core_cons_slash : core ('/' :: cs) = strip (· == '/') (stripEnd isBlank cs) := by
  have hblank : strip isBlank ('/' :: cs) = '/' :: stripEnd isBlank cs := by
    rw [strip, List.dropWhile_cons_of_neg (by decide), stripEnd_cons_of_neg (by decide)]
  rw [core, hblank, strip_cons_of_pos (by decide)]

/-- What stands between slashes is protected from losing its blanks. -/
theorem core_between_slashes : core ('/' :: (cs ++ ['/'])) = strip (· == '/') cs := by
  have hlast : (cs ++ ['/']).getLast?.any isBlank = false := by
    rw [List.getLast?_concat]
    decide
  have hslash : stripEnd (· == '/') (cs.dropWhile (· == '/') ++ ['/']) = strip (· == '/') cs := by
    exact List.rdropWhile_concat_pos _ _ '/' (by decide)
  rw [core_cons_slash, stripEnd_eq_self_iff.mpr hlast, strip, List.dropWhile_append]
  split
  · rename_i hnone
    rw [strip, List.isEmpty_iff.mp hnone]
    rfl
  · exact hslash

theorem endsBlank_parse : (parse path).endsBlank = (core path.toList).getLast?.any isBlank := by
  rw [endsBlank, toList_text_parse, List.getLast?_cons]
  cases (core path.toList).getLast? with
  | none => decide
  | some c => rfl

/-- **A name is a path to its own namespace** exactly if it does not end in a blank. -/
theorem parse_text_parse_iff :
    parse (parse path).text = parse path ↔ (parse path).endsBlank = false := by
  rw [parse_eq_parse_iff, toList_text_parse, core_cons_slash, endsBlank_parse,
    ← stripEnd_eq_self_iff]
  constructor
  · intro h
    -- no slash makes up for a blank that is lost
    have hprefix : stripEnd isBlank (core path.toList) <+: core path.toList :=
      List.rdropWhile_prefix isBlank _
    refine hprefix.eq_of_length_le ?_
    calc (core path.toList).length
        = (strip (· == '/') (stripEnd isBlank (core path.toList))).length := by rw [h]
      _ ≤ (stripEnd isBlank (core path.toList)).length := length_strip_le
  · intro h
    rw [h, strip_core]

/-- With a slash behind it a name is a path to its own namespace. -/
theorem parse_text_append_slash : parse ((parse path).text ++ "/") = parse path := by
  rw [parse_eq_parse_iff, String.toList_append, toList_text_parse]
  exact core_between_slashes.trans strip_core

end Namespace

namespace Router

variable {η : Type} {r : Router η} {handlers : η} {path : String} {n : Namespace}
  {es : List (String × η)}

theorem resolve_register_text : (r.register path handlers).resolve (Namespace.parse path).text =
      some (Namespace.parse path, handlers) ↔ (Namespace.parse path).endsBlank = false := by
  rw [← Namespace.parse_text_parse_iff, resolve, Option.map_eq_some_iff]
  constructor
  · rintro ⟨_, -, hpair⟩
    exact (Prod.mk.inj hpair).1
  · intro h
    refine ⟨handlers, ?_, by rw [h]⟩
    rw [h, register, Table.find?_insert, if_pos rfl]

theorem resolve_listed (h : n ∈ (empty.registerAll es).namespaces) :
    (∃ hs, (empty.registerAll es).resolve n.text = some (n, hs)) ↔ n.endsBlank = false := by
  have hkey : n ∈ (empty.registerAll es).routes.keys := Namespace.mem_sort.mp h
  obtain ⟨path, -, rfl⟩ := mem_keys_registerAll.mp hkey
  rw [← Namespace.parse_text_parse_iff]
  constructor
  · rintro ⟨hs, hresolve⟩
    obtain ⟨_, -, hpair⟩ := Option.map_eq_some_iff.mp hresolve
    exact (Prod.mk.inj hpair).1
  · intro hback
    have hfound : ((empty.registerAll es).routes.find? (Namespace.parse path)).isSome = true :=
      Table.mem_keys_iff.mp hkey
    obtain ⟨hs, hfind⟩ := Option.isSome_iff_exists.mp hfound
    exact ⟨hs, by rw [resolve, hback, hfind, Option.map_some]⟩

/-! ## The main result -/

/-- **A name leads back to its namespace exactly if it does not end in a blank**, whatever path the name
was made of.

* Read as a path, a name names the same namespace exactly then.
* So what was registered for a path is found under the name that came of it exactly then.
* Of the namespaces that a router lists, whatever was registered with it, those and no others are
  found by their names.
* A slash behind the name leads back in every case. -/
theorem name_leads_back_iff :
    (∀ path, Namespace.parse (Namespace.parse path).text = Namespace.parse path ↔
      (Namespace.parse path).endsBlank = false) ∧
    (∀ (r : Router η) path handlers,
      (r.register path handlers).resolve (Namespace.parse path).text =
        some (Namespace.parse path, handlers) ↔ (Namespace.parse path).endsBlank = false) ∧
    (∀ (es : List (String × η)), ∀ n ∈ (empty.registerAll es).namespaces,
      (∃ hs, (empty.registerAll es).resolve n.text = some (n, hs)) ↔ n.endsBlank = false) ∧
    ∀ path, Namespace.parse ((Namespace.parse path).text ++ "/") = Namespace.parse path :=
  ⟨fun _ => Namespace.parse_text_parse_iff, fun _ _ _ => resolve_register_text,
    fun _ _ h => resolve_listed h, fun _ => Namespace.parse_text_append_slash⟩

/-- One path whose slash protects a blank, and one without blanks. -/
def protectedBlank : List (String × String) := [("/admin\u00a0/", "a"), ("ops//", "b")]

/-- Both namespaces are listed, and only the second one is found by its name. -/
theorem name_leads_back_iff_protected :
    (⟨"/admin\u00a0"⟩ : Namespace) ∈ (empty.registerAll protectedBlank).namespaces ∧
    (¬∃ hs, (empty.registerAll protectedBlank).resolve "/admin\u00a0" =
      some (⟨"/admin\u00a0"⟩, hs)) ∧
    (⟨"/ops"⟩ : Namespace) ∈ (empty.registerAll protectedBlank).namespaces ∧
    ∃ hs, (empty.registerAll protectedBlank).resolve "/ops" = some (⟨"/ops"⟩, hs) := by
  obtain ⟨-, -, hlisted, -⟩ := name_leads_back_iff (η := String)
  have hadmin : (⟨"/admin\u00a0"⟩ : Namespace) ∈ (empty.registerAll protectedBlank).namespaces :=
    Namespace.mem_sort.mpr (mem_keys_registerAll.mpr ⟨"/admin\u00a0/", by decide, by decide⟩)
  have hops : (⟨"/ops"⟩ : Namespace) ∈ (empty.registerAll protectedBlank).namespaces :=
    Namespace.mem_sort.mpr (mem_keys_registerAll.mpr ⟨"ops//", by decide, by decide⟩)
  refine ⟨hadmin, ?_, hops, (hlisted protectedBlank _ hops).mpr (by decide)⟩
  rw [hlisted protectedBlank _ hadmin]
  decide

end Router

/-- **Reading a name as a path does not always give its namespace again**: here it is another one, and
what is registered is not found. -/
theorem Namespace.not_leads_back_protected :
    parse (parse "/admin /").text ≠ parse "/admin /" ∧
      ((Router.empty : Router String).register "/admin /" "a").resolve (parse "/admin /").text =
        none := by
  decide

end SocketGateway
