import Mathlib.Data.List.Induction
import SocketGateway.Proofs.Registry
import SocketGateway.Router

/-!
# Routing

What a router answers can be read off the registrations in their order: a path leads to the handlers
that were registered last for its namespace, however that was spelled, and registrations of other
namespaces do not matter. The namespaces that are served come in the order of their bytes, each of
them once.
-/

namespace SocketGateway

/-! ## The order of namespaces -/

namespace Namespace

variable {a b n : Namespace} {ns : List Namespace}

theorem toList_loop (bs : ByteArray) (i : Nat) (front : List UInt8) :
    ByteArray.toList.loop bs i front = front.reverse ++ bs.data.toList.drop i := by
  fun_induction ByteArray.toList.loop bs i front with
  | case1 i front hlt ih =>
      have hi : i < bs.data.toList.length := hlt
      have hbyte : bs.data.toList.drop i = bs.get! i :: bs.data.toList.drop (i + 1) := by
        rw [List.drop_eq_getElem_cons hi]
        exact congrArg (· :: _) (getElem!_pos bs.data i hi).symm
      rw [ih, hbyte, List.reverse_cons, List.append_assoc, List.singleton_append]
  | case2 i front hge =>
      have hout : bs.data.toList.length ≤ i := Nat.le_of_not_lt hge
      rw [List.drop_eq_nil_of_le hout, List.append_nil]

/-- The bytes that namespaces are compared by are those of the text. -/
theorem bytes_eq (n : Namespace) : n.bytes = n.text.toByteArray.data.toList := by
  rw [bytes, String.toUTF8_eq_toByteArray]
  exact toList_loop n.text.toByteArray 0 []

theorem bytes_injective (h : a.bytes = b.bytes) : a = b := by
  rw [bytes_eq, bytes_eq] at h
  have hdata : a.text.toByteArray = b.text.toByteArray := ByteArray.ext (Array.toList_inj.mp h)
  cases a
  cases b
  exact congrArg mk (String.toByteArray_inj.mp hdata)

theorem mem_sort : n ∈ sort ns ↔ n ∈ ns := (List.mergeSort_perm ns le).mem_iff

/-- Different namespaces are sorted strictly by their bytes. -/
theorem sort_ascending (h : ns.Nodup) : (sort ns).Pairwise fun a b => a.bytes < b.bytes := by
  have hsorted : (sort ns).Pairwise fun a b => le a b = true := by
    apply List.pairwise_mergeSort
    · intro a b c hab hbc
      exact decide_eq_true (List.le_trans (of_decide_eq_true hab) (of_decide_eq_true hbc))
    · intro a b
      rcases List.le_total a.bytes b.bytes with hab | hba
      · simp [le, hab]
      · simp [le, hba]
  have hnodup : (sort ns).Nodup := (List.mergeSort_perm ns le).nodup_iff.mpr h
  refine (hsorted.and hnodup).imp ?_
  rintro a b ⟨hle, hne⟩
  have hbytes : a.bytes ≠ b.bytes := fun heq => hne (bytes_injective heq)
  exact Std.lt_of_le_of_ne (of_decide_eq_true hle) hbytes

end Namespace

namespace Router

variable {η : Type} {r : Router η} {es es' : List (String × η)} {e : String × η} {n : Namespace}

/-! ## Histories -/

def registerAll (r : Router η) (es : List (String × η)) : Router η :=
  es.foldl (fun r e => r.register e.1 e.2) r

def history (paths : List String) (handlers : η) (rs : List (String × η)) : List (String × η) :=
  paths.map (·, handlers) ++ rs

def registrationsOf (n : Namespace) (es : List (String × η)) : List (String × η) :=
  es.filter fun e => Namespace.parse e.1 = n

theorem shared_registerAll (paths : List String) (handlers : η) (es : List (String × η)) :
    (shared paths handlers).registerAll es = empty.registerAll (history paths handlers es) := by
  rw [registerAll, registerAll, history, List.foldl_append, List.foldl_map, shared]

theorem registerAll_snoc : r.registerAll (es ++ [e]) = (r.registerAll es).register e.1 e.2 :=
  List.foldl_append

theorem map_fst_history (paths : List String) (handlers : η) (es : List (String × η)) :
    (history paths handlers es).map (·.1) = paths ++ es.map (·.1) := by
  simp [history, Function.comp_def]

theorem getLast?_registrationsOf {before later : List (String × η)} (h : Namespace.parse e.1 = n)
    (hlater : ∀ e ∈ later, Namespace.parse e.1 ≠ n) :
    (registrationsOf n (before ++ e :: later)).getLast? = some e := by
  have hnone : (later.filter fun e => Namespace.parse e.1 = n) = [] := by
    rw [List.filter_eq_nil_iff]
    intro e he
    simpa using hlater e he
  rw [registrationsOf, List.filter_append, List.filter_cons_of_pos (by simpa using h), hnone,
    List.getLast?_concat]

/-- **Under a namespace there are the handlers that were registered for it last.** -/
theorem find?_registerAll : (empty.registerAll es).routes.find? n =
    (registrationsOf n es).getLast?.map (·.2) := by
  induction es using List.reverseRecOn with
  | nil => rfl
  | append_singleton es e ih =>
      rw [registerAll_snoc, register, Table.find?_insert, ih]
      -- the last registration counts if it is one for the namespace, and else those before it
      by_cases h : Namespace.parse e.1 = n
      · simp [registrationsOf, h]
      · simp [registrationsOf, h]

theorem resolve_registerAll (path : String) : (empty.registerAll es).resolve path =
    (registrationsOf (Namespace.parse path) es).getLast?.map
      fun e => (Namespace.parse path, e.2) := by
  rw [resolve, find?_registerAll, Option.map_map]
  rfl

theorem mem_keys_registerAll : n ∈ (empty.registerAll es).routes.keys ↔
    ∃ s ∈ es.map (·.1), Namespace.parse s = n := by
  rw [Table.mem_keys_iff, Table.contains, find?_registerAll, Option.isSome_map,
    List.getLast?_isSome]
  simp [registrationsOf]

theorem nodup_keys_registerAll : (empty.registerAll es).routes.keys.Nodup := by
  induction es using List.reverseRecOn with
  | nil => exact List.nodup_nil
  | append_singleton es e ih =>
      rw [registerAll_snoc]
      exact Table.nodup_keys_insert ih

theorem size_eq_length_namespaces : r.size = r.namespaces.length := by
  rw [size, Table.size_eq_length_keys, namespaces, Namespace.sort, List.length_mergeSort]

/-! ## The main result -/

/-- **A router answers by its history**, for whatever paths it is set up and whatever is registered
after that, however the paths are spelled.

* A path is served exactly if something was registered for its namespace.
* It leads to its namespace, with the handlers that were registered for that last.
* Only the registrations of its namespace matter.
* The namespaces served are those of the registrations, in strictly ascending order of their bytes,
  and they are counted. -/
theorem routes_follow_history (paths : List String) (handlers : η) (rs : List (String × η)) :
    (∀ path, (((shared paths handlers).registerAll rs).resolve path).isSome = true ↔
      ∃ s ∈ paths ++ rs.map (·.1), Namespace.parse s = Namespace.parse path) ∧
    (∀ path before s hs later, history paths handlers rs = before ++ (s, hs) :: later →
      Namespace.parse s = Namespace.parse path →
      (∀ e ∈ later, Namespace.parse e.1 ≠ Namespace.parse path) →
      ((shared paths handlers).registerAll rs).resolve path = some (Namespace.parse path, hs)) ∧
    (∀ path paths' handlers' rs', registrationsOf (Namespace.parse path)
        (history paths' handlers' rs') =
          registrationsOf (Namespace.parse path) (history paths handlers rs) →
      ((shared paths' handlers').registerAll rs').resolve path =
        ((shared paths handlers).registerAll rs).resolve path) ∧
    (((shared paths handlers).registerAll rs).namespaces.Pairwise fun a b => a.bytes < b.bytes) ∧
    (∀ n, n ∈ ((shared paths handlers).registerAll rs).namespaces ↔
      ∃ s ∈ paths ++ rs.map (·.1), Namespace.parse s = n) ∧
    ((shared paths handlers).registerAll rs).size =
      ((shared paths handlers).registerAll rs).namespaces.length := by
  rw [shared_registerAll, ← map_fst_history paths handlers rs]
  refine ⟨?_, ?_, ?_, ?_, ?_, size_eq_length_namespaces⟩
  · intro path
    rw [resolve, Option.isSome_map]
    exact Table.mem_keys_iff.symm.trans mem_keys_registerAll
  · intro path before s hs later hsplit hparse hlater
    rw [resolve_registerAll, hsplit, getLast?_registrationsOf (e := (s, hs)) hparse hlater]
    rfl
  · intro path paths' handlers' rs' hsame
    rw [shared_registerAll, resolve_registerAll, hsame, ← resolve_registerAll]
  · exact Namespace.sort_ascending nodup_keys_registerAll
  · intro n
    exact Namespace.mem_sort.trans mem_keys_registerAll

/-- What is registered after the set-up: one of two namespaces, spelled otherwise, gets other
handlers, and a third one comes. -/
def respelled : List (String × String) := [(" /admin", "b"), ("//ops", "c")]

/-- The last spelling counts for every other one, and the other namespace is not affected. -/
theorem routes_follow_history_respelled :
    (∃ s ∈ ["admin/", ""] ++ respelled.map (·.1),
      Namespace.parse s = Namespace.parse "/admin//") ∧
    ((shared ["admin/", ""] "a").registerAll respelled).resolve "/admin//" =
      some (⟨"/admin"⟩, "b") ∧
    ((shared ["admin/", ""] "a").registerAll respelled).resolve "/" =
      ((shared [""] "a").registerAll []).resolve "/" := by
  obtain ⟨hserved, hlast, hothers, -, -, -⟩ :=
    routes_follow_history ["admin/", ""] "a" respelled
  have hname : Namespace.parse "/admin//" = ⟨"/admin"⟩ := by decide
  have hresolve := hlast "/admin//" [("admin/", "a"), ("", "a")] " /admin" "b" [("//ops", "c")]
    rfl (by decide) (by decide)
  have hsome := (hserved "/admin//").mp (Option.isSome_of_eq_some hresolve)
  exact ⟨hsome, hname ▸ hresolve, (hothers "/" [""] "a" [] (by decide)).symm⟩

end Router

end SocketGateway
