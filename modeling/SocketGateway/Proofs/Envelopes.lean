import Mathlib.Data.List.Forall2
import Mathlib.Data.List.Nodup
import SocketGateway.Proofs.Reading
import SocketGateway.Message.Shape

/-!
# Which texts are messages

A reader of messages goes through an object member by member, finds the kind among them and keeps
the rest. Here this is told by the members that the text holds: `named` gives the contents of the
members with a name, and a message is read from an object exactly if one member names its kind and
the members that its fields call for are there, once each and of the right type.
-/

namespace SocketGateway.Message

open SocketGateway.Json

/-! ## Members by their names -/

/-- The contents of the members with a name, in the order of the members. -/
def named (name : String) (ms : List (String × α)) : List α :=
  (ms.filter (·.1 == name)).map (·.2)

def others (ms : List (String × α)) : List (String × α) := ms.filter (·.1 != Envelope.tag)

section Named

variable {name k : String} {v : α} {ms : List (String × α)}

@[simp] theorem named_nil : named name ([] : List (String × α)) = [] := rfl

@[simp] theorem named_cons :
    named name ((k, v) :: ms) = if k = name then v :: named name ms else named name ms := by
  by_cases h : k = name <;> simp [named, h]

@[simp] theorem others_nil : others ([] : List (String × α)) = [] := rfl

@[simp] theorem others_cons :
    others ((k, v) :: ms) = if k = Envelope.tag then others ms else (k, v) :: others ms := by
  by_cases h : k = Envelope.tag <;> simp [others, h]

theorem named_others (h : name ≠ Envelope.tag) : named name (others ms) = named name ms := by
  induction ms with
  | nil => rfl
  | cons m ms ih =>
    obtain ⟨k, v⟩ := m
    by_cases hk : k = Envelope.tag
    · have hne : k ≠ name := fun heq => h (heq ▸ hk)
      simp [hk, ih, hk ▸ hne]
    · simp [hk, ih]

end Named

namespace Envelope

variable {size : Nat} {kinds : List String} {cs rest : List Char} {env : Envelope}

/-! ## The kind -/

/-- A kind is read where a string stands that is one of the kinds. -/
theorem readKind_eq_ok_iff (depth : Nat) {k : String} :
    readKind size kinds cs = .ok (k, rest) ↔
      readValue size depth cs = .ok (.string k, rest) ∧ k ∈ kinds := by
  rw [readValue_eq_ok_iff]
  unfold readKind
  split
  · rename_i inner hskip
    simp [hskip, readScalar_bracket, fail]
  · rename_i inner hskip
    simp [hskip, readScalar_brace, fail]
  · cases hread : readScalar size (skipSpace cs) with
    | error f => simp
    | ok read =>
      obtain ⟨v, left⟩ := read
      cases v <;> grind [fail]

/-! ## Objects -/

section Objects

variable {fuel : Nat} {first : Bool} {kind : Option String} {acc : List (String × Value)}

/-- One turn of the loop over the members of a message: it met the end and knows the kind, or it
read the kind, which was not known, or it read another member. -/
theorem readObject_succ :
    readObject size kinds (fuel + 1) first kind acc cs = .ok (env, rest) ↔
      (nextKey first cs = .ok (.done rest) ∧
        ∃ k, kind = some k ∧ env = ⟨k, .members acc.reverse⟩) ∨
      ∃ cs₁ key cs₂ cs₃, nextKey first cs = .ok (.more cs₁) ∧
        readString size [] cs₁ = .ok (key, cs₂) ∧ passColon cs₂ = .ok cs₃ ∧
        ((key = tag ∧ kind = none ∧ ∃ k cs₄, readKind size kinds cs₃ = .ok (k, cs₄) ∧
            readObject size kinds fuel false (some k) acc cs₄ = .ok (env, rest)) ∨
          (key ≠ tag ∧ ∃ v cs₄, readValue size (maxDepth - 1) cs₃ = .ok (v, cs₄) ∧
            readObject size kinds fuel false kind ((key, v) :: acc) cs₄ = .ok (env, rest))) := by
  rw [readObject]
  cases hnext : nextKey first cs with
  | error f => simp
  | ok ahead =>
    cases ahead with
    | done left => cases kind <;> grind [fail]
    | more left =>
      cases hkey : readString size [] left with
      | error f => grind
      | ok read =>
        obtain ⟨key, afterKey⟩ := read
        by_cases htag : key = tag
        · cases kind <;> cases hcolon : passColon afterKey <;> grind [fail]
        · cases hcolon : passColon afterKey <;> grind

/-- With more fuel than characters, a message is read from an object if the kind, met before or
ahead, occurs once and is one of the kinds; what else is ahead becomes its body. -/
theorem readObject_eq_ok_iff (hfuel : cs.length < fuel) (hkind : ∀ k ∈ kind, k ∈ kinds) :
    readObject size kinds fuel first kind acc cs = .ok (env, rest) ↔
      ∃ ms, Members (readValue size (maxDepth - 1)) size first cs ms rest ∧
        kind.toList.map Value.string ++ named tag ms = [.string env.kind] ∧ env.kind ∈ kinds ∧
        env.body = .members (acc.reverse ++ others ms) := by
  -- along the loop, the kind met before and those ahead make up one list
  induction fuel generalizing first kind acc cs with
  | zero => omega
  | succ fuel ih =>
    have hnext : ∀ {cs₁ key cs₂ cs₃ v cs₄}, nextKey first cs = .ok (.more cs₁) →
        readString size [] cs₁ = .ok (key, cs₂) → passColon cs₂ = .ok cs₃ →
        readValue size (maxDepth - 1) cs₃ = .ok (v, cs₄) → cs₄.length < fuel := by
      intro cs₁ key cs₂ cs₃ v cs₄ hmore hkey hcolon hread
      have hless := member_length (readValue_takesFront _ _) hmore hkey hcolon hread
      omega
    rw [readObject_succ]
    constructor
    · rintro (⟨hdone, k, rfl, rfl⟩ | ⟨cs₁, key, cs₂, cs₃, hmore, hkey, hcolon, hmember⟩)
      · exact ⟨[], .done hdone, by simp, hkind k rfl, by simp⟩
      · rcases hmember with ⟨rfl, rfl, k, cs₄, hread, hrec⟩ | ⟨hne, v, cs₄, hread, hrec⟩
        · obtain ⟨hvalue, hk⟩ := (readKind_eq_ok_iff _).mp hread
          obtain ⟨ms, hms, hone, hmem, hbody⟩ :=
            (ih (hnext hmore hkey hcolon hvalue) (by simpa using hk)).mp hrec
          exact ⟨_, .more hmore hkey hcolon hvalue hms, by simpa using hone, hmem,
            by simpa using hbody⟩
        · obtain ⟨ms, hms, hone, hmem, hbody⟩ :=
            (ih (hnext hmore hkey hcolon hread) hkind).mp hrec
          exact ⟨_, .more hmore hkey hcolon hread hms, by simpa [hne] using hone, hmem,
            by simpa [hne] using hbody⟩
    · rintro ⟨ms, hms, hone, hmem, hbody⟩
      cases hms with
      | done hdone =>
        obtain ⟨k, body⟩ := env
        refine .inl ⟨hdone, k, ?_, ?_⟩
        · cases kind <;> simp_all
        · simpa using hbody
      | @more _ _ cs₁ key cs₂ cs₃ v cs₄ ms _ hmore hkey hcolon hread hms =>
        refine .inr ⟨cs₁, key, cs₂, cs₃, hmore, hkey, hcolon, ?_⟩
        by_cases htag : key = tag
        · -- a second member of this name would be one too many
          have hnone : kind = none := by
            cases kind with
            | none => rfl
            | some k => simp [htag] at hone
          subst hnone
          simp only [htag, named_cons, if_pos, Option.toList_none, List.map_nil, List.nil_append,
            List.cons.injEq] at hone
          obtain ⟨rfl, hone⟩ := hone
          refine .inl ⟨htag, rfl, env.kind, cs₄, (readKind_eq_ok_iff _).mpr ⟨hread, hmem⟩, ?_⟩
          exact (ih (hnext hmore hkey hcolon hread) (by simpa using hmem)).mpr
            ⟨ms, hms, by simpa using hone, hmem, by simpa [htag] using hbody⟩
        · refine .inr ⟨htag, v, cs₄, hread, ?_⟩
          exact (ih (hnext hmore hkey hcolon hread) hkind).mpr
            ⟨ms, hms, by simpa [htag] using hone, hmem, by simpa [htag] using hbody⟩

end Objects

/-! ## Messages -/

/-- A message that begins with a brace is an object that holds its kind once. -/
theorem read_object_iff {title : String} {inner : List Char} (hskip : skipSpace cs = '{' :: inner) :
    read title kinds cs = .ok (env, rest) ↔
      ∃ ms, readValue (cs.length + 1) maxDepth cs = .ok (.object ms, rest) ∧
        named tag ms = [.string env.kind] ∧ env.kind ∈ kinds ∧
        env.body = .members (others ms) := by
  have hfuel : inner.length < cs.length + 1 := by
    have hlength := (skipSpace_suffix cs).length_le
    rw [hskip, List.length_cons] at hlength
    omega
  have hread : read title kinds cs =
      readObject (cs.length + 1) kinds (cs.length + 1) true none [] inner := by
    simp only [read, hskip]
  have hvalue : ∀ ms, readValue (cs.length + 1) maxDepth cs = .ok (.object ms, rest) ↔
      Members (readValue (cs.length + 1) (maxDepth - 1)) (cs.length + 1) true inner ms rest := by
    intro ms
    show readValue (cs.length + 1) (maxDepth - 1 + 1) cs = _ ↔ _
    rw [readValue_object_iff (Nat.lt_succ_self cs.length) hskip]
    simp
  rw [hread, readObject_eq_ok_iff hfuel (by simp)]
  simp [hvalue]

/-- A message that begins with a bracket is an array. -/
theorem read_array {title : String} {inner : List Char} (hskip : skipSpace cs = '[' :: inner)
    (h : read title kinds cs = .ok (env, rest)) :
    ∃ vs, readValue (cs.length + 1) maxDepth cs = .ok (.array vs, rest) := by
  have hlength : inner.length + 1 ≤ cs.length := by
    have hle := (skipSpace_suffix cs).length_le
    rwa [hskip, List.length_cons] at hle
  simp only [read, hskip, readList] at h
  split at h
  · simp at h
  · simp [fail] at h
  · rename_i front hmore
    split at h
    · simp at h
    · rename_i k afterKind hkind
      split at h
      · simp at h
      · rename_i vs left hitems
        obtain ⟨hfirst, -⟩ := (readKind_eq_ok_iff (maxDepth - 1)).mp hkind
        simp only [Except.ok.injEq, Prod.mk.injEq] at h
        obtain ⟨-, rfl⟩ := h
        have hleft := ((readValue_takesFront _ _ _ _ _ hfirst).trans
          (nextItem_more_suffix hmore)).length_le
        obtain ⟨ws, -, hws⟩ := (readItems_eq_ok_iff (readValue_takesFront _ _)
          (by simp only [Bool.toNat_false]; omega)).mp hitems
        exact ⟨_, (readValue_array_iff (Nat.lt_succ_self cs.length) hskip).mpr
          ⟨_, rfl, .more hmore hfirst hws⟩⟩

/-- A message that begins otherwise is refused. -/
theorem read_scalar {title : String} (hlist : ∀ inner, skipSpace cs ≠ '[' :: inner)
    (hobject : ∀ inner, skipSpace cs ≠ '{' :: inner) : read title kinds cs ≠ .ok (env, rest) := by
  unfold read
  split
  · rename_i inner hskip
    exact absurd hskip (hlist inner)
  · rename_i inner hskip
    exact absurd hskip (hobject inner)
  · dsimp only
    split <;> simp [fail]

/-- Where no array stands, a message is read from an object that holds its kind once. -/
theorem read_eq_ok_iff {title : String}
    (harray : ∀ vs, readValue (cs.length + 1) maxDepth cs ≠ .ok (.array vs, rest)) :
    read title kinds cs = .ok (env, rest) ↔
      ∃ ms, readValue (cs.length + 1) maxDepth cs = .ok (.object ms, rest) ∧
        named tag ms = [.string env.kind] ∧ env.kind ∈ kinds ∧
        env.body = .members (others ms) := by
  constructor
  · intro h
    cases hskip : skipSpace cs with
    | nil => exact absurd h (read_scalar (by simp [hskip]) (by simp [hskip]))
    | cons c inner =>
      by_cases hlist : c = '['
      · obtain ⟨vs, hvs⟩ := read_array (hlist ▸ hskip) h
        exact absurd hvs (harray vs)
      · by_cases hobject : c = '{'
        · exact (read_object_iff (hobject ▸ hskip)).mp h
        · exact absurd h (read_scalar (by simp [hskip, hlist]) (by simp [hskip, hobject]))
  · rintro ⟨ms, hvalue, hrest⟩
    rcases readValue_eq_ok_iff.mp hvalue with
      ⟨inner, d, vs, -, -, -, heq⟩ | ⟨inner, d, ms', hskip, -⟩ | hscalar
    · cases heq
    · exact (read_object_iff hskip).mpr ⟨ms, hvalue, hrest⟩
    · exact absurd rfl ((readScalar_isScalar hscalar).2 ms)

end Envelope

/-! ## Whole texts -/

/-- A text that holds no array is a message exactly if it holds an object in which one member
names a kind, and that kind can be built from the other members. -/
theorem decodeWith_eq_ok_iff {title : String} {kinds : List String}
    {build : String → Body → Except Mismatch α} {text : String} {a : α}
    (harray : ∀ vs, contents? text ≠ some (.array vs)) :
    decodeWith title kinds build text = .ok a ↔
      ∃ ms k, contents? text = some (.object ms) ∧ named Envelope.tag ms = [.string k] ∧
        k ∈ kinds ∧ build k (.members (others ms)) = .ok a := by
  have hdecode : decodeWith title kinds build text = .ok a ↔
      ∃ env rest, Envelope.read title kinds text.toList = .ok (env, rest) ∧
        build env.kind env.body = .ok a ∧ expectEnd rest = .ok () := by
    simp only [decodeWith]
    cases hread : Envelope.read title kinds text.toList with
    | error f => simp
    | ok read =>
      obtain ⟨env, rest⟩ := read
      cases hbuild : build env.kind env.body with
      | error m => grind
      | ok b => cases hend : expectEnd rest <;> grind
  rw [hdecode]
  constructor
  · rintro ⟨env, rest, hread, hbuild, hend⟩
    have hno : ∀ vs, readValue (text.toList.length + 1) maxDepth text.toList ≠
        .ok (.array vs, rest) :=
      fun vs h => harray vs (contents?_eq_some_iff.mpr ⟨rest, h, hend⟩)
    obtain ⟨ms, hvalue, hkind, hmem, hbody⟩ := (Envelope.read_eq_ok_iff hno).mp hread
    exact ⟨ms, env.kind, contents?_eq_some_iff.mpr ⟨rest, hvalue, hend⟩, hkind, hmem,
      hbody ▸ hbuild⟩
  · rintro ⟨ms, k, hcontents, hkind, hmem, hbuild⟩
    obtain ⟨rest, hvalue, hend⟩ := contents?_eq_some_iff.mp hcontents
    have hno : ∀ vs, readValue (text.toList.length + 1) maxDepth text.toList ≠
        .ok (.array vs, rest) := by
      intro vs h
      cases hvalue.symm.trans h
    exact ⟨⟨k, .members (others ms)⟩, rest,
      (Envelope.read_eq_ok_iff hno).mpr ⟨ms, hvalue, hkind, hmem, rfl⟩, hbuild, hend⟩

/-! ## Fields -/

theorem read_text_iff {v : Value} {c : Content} :
    FieldType.text.read v = .ok c ↔ ∃ s, v = .string s ∧ c = .text s := by
  cases v <;> simp [FieldType.read, eq_comm]

theorem read_list_iff {v : Value} {c : Content} :
    FieldType.list.read v = .ok c ↔ ∃ vs, v = .array vs ∧ c = .list (vs.map Value.canonical) := by
  cases v <;> simp [FieldType.read, Value.canonicalItems_eq, eq_comm]

/-- A count of 64 bits is read back from its value. -/
theorem read_count_int (n : UInt64) : FieldType.count.read (.int n.toNat) = .ok (.count n) := by
  simp [FieldType.read, Value.int]

namespace Shape

/-- A field is found among members if one of them has its name and holds what it calls for, or
none has its name and there is a default. -/
def Finds (ms : List (String × Value)) (f : Field) (c : Content) : Prop :=
  (∃ v, named f.name ms = [v] ∧ f.type.read v = .ok c) ∨
    (named f.name ms = [] ∧ f.default? = some c)

section Gather

variable {fields : List Field} {ms : List (String × Value)} {found found' : List (String × Content)}

theorem lookup_eq_none_of_any {k : String} (h : ¬found.any (·.1 == k) = true) :
    found.lookup k = none := by
  rw [List.lookup_eq_none_iff]
  intro p hp
  rw [bne_iff_ne]
  intro heq
  exact h (List.any_eq_true.mpr ⟨p, hp, by rw [heq, beq_self_eq_true]⟩)

/-- Each field is absent and keeps the content found before, or it is met once and had none. -/
theorem lookup_of_gather (hnames : (fields.map Field.name).Nodup)
    (h : gather fields ms found = .ok found') {f : Field} (hf : f ∈ fields) :
    (named f.name ms = [] ∧ found'.lookup f.name = found.lookup f.name) ∨
      (found.lookup f.name = none ∧
        ∃ v c, named f.name ms = [v] ∧ f.type.read v = .ok c ∧
          found'.lookup f.name = some c) := by
  induction ms generalizing found with
  | nil =>
    simp only [gather, Except.ok.injEq] at h
    exact .inl ⟨rfl, by rw [h]⟩
  | cons m ms ih =>
    obtain ⟨k, v⟩ := m
    rw [gather] at h
    cases hfind : fields.find? (·.name == k) with
    | none =>
      have hne : k ≠ f.name := by
        intro heq
        have hmiss := List.find?_eq_none.mp hfind f hf
        simp [heq] at hmiss
      simp only [hfind] at h
      simpa [hne] using ih h
    | some g =>
      have hg : g.name = k := by simpa using List.find?_some hfind
      simp only [hfind] at h
      split at h
      · simp at h
      · rename_i hnew
        cases hread : g.type.read v with
        | error m => simp [hread] at h
        | ok c =>
          simp only [hread] at h
          by_cases heq : f.name = k
          · -- names are distinct, so the field that was met is this one
            have hfg : f = g := List.inj_on_of_nodup_map hnames hf
              (List.mem_of_find?_eq_some hfind) (heq.trans hg.symm)
            subst hfg
            rcases ih h with ⟨hnone, hlookup⟩ | ⟨hnone, -⟩
            · refine .inr ⟨heq ▸ lookup_eq_none_of_any hnew, v, c, ?_, hread, ?_⟩
              · simp [heq, heq ▸ hnone]
              · rw [hlookup, heq, List.lookup_cons_self]
            · simp [heq] at hnone
          · have hskip : ((k, c) :: found).lookup f.name = found.lookup f.name := by
              rw [List.lookup_cons, beq_false_of_ne heq]
            have hrec := ih h
            rw [hskip] at hrec
            simpa [Ne.symm heq] using hrec

/-- Members are gathered if each field is absent, or is met once, had no content and reads. -/
theorem gather_of_fields
    (h : ∀ f ∈ fields, named f.name ms = [] ∨ (found.lookup f.name = none ∧
      ∃ v c, named f.name ms = [v] ∧ f.type.read v = .ok c)) :
    ∃ found', gather fields ms found = .ok found' := by
  induction ms generalizing found with
  | nil => exact ⟨found, rfl⟩
  | cons m ms ih =>
    obtain ⟨k, v⟩ := m
    rw [gather]
    cases hfind : fields.find? (·.name == k) with
    | none =>
      refine ih fun f hf => ?_
      have hne : k ≠ f.name := by
        intro heq
        have hmiss := List.find?_eq_none.mp hfind f hf
        simp [heq] at hmiss
      simpa [hne] using h f hf
    | some g =>
      have hg : g.name = k := by simpa using List.find?_some hfind
      rcases h g (List.mem_of_find?_eq_some hfind) with habsent | ⟨hnone, w, c, hone, hread⟩
      · simp [hg] at habsent
      · simp only [hg, named_cons, if_pos, List.cons.injEq] at hone
        obtain ⟨rfl, hone⟩ := hone
        have hnew : ¬found.any (·.1 == k) = true := by
          intro hany
          obtain ⟨p, hp, heq⟩ := List.any_eq_true.mp hany
          have hmiss := List.lookup_eq_none_iff.mp hnone p hp
          simp_all
        simp only [if_neg hnew, hread]
        refine ih fun f hf => ?_
        by_cases heq : f.name = k
        · exact .inl (by rw [heq, hone])
        · rw [List.lookup_cons, beq_false_of_ne heq]
          simpa [Ne.symm heq] using h f hf

theorem fill_eq_ok_iff (hnames : (fields.map Field.name).Nodup)
    (h : gather fields ms [] = .ok found) {f : Field} (hf : f ∈ fields) {c : Content} :
    fill found f = .ok c ↔ Finds ms f c := by
  unfold fill Finds
  rcases lookup_of_gather hnames h hf with ⟨hnone, hlookup⟩ | ⟨-, v, c', hone, hread, hlookup⟩
  · cases hdefault : f.default? <;> simp [hlookup, hnone]
  · simp [hlookup, hone, hread]

end Gather

/-- A check of each element gives results that are, one by one, those of the elements. -/
theorem mapM_eq_ok_iff {g : α → Except ε β} {R : α → β → Prop} {as : List α} {bs : List β}
    (h : ∀ a ∈ as, ∀ b, g a = .ok b ↔ R a b) :
    as.mapM g = .ok bs ↔ List.Forall₂ R as bs := by
  induction as generalizing bs with
  | nil => simp [pure, Except.pure, eq_comm]
  | cons a as ih =>
    have hrest : ∀ {bs}, as.mapM g = .ok bs ↔ List.Forall₂ R as bs :=
      ih fun a' ha' => h a' (List.mem_cons_of_mem a ha')
    have hhead := h a List.mem_cons_self
    rw [List.mapM_cons]
    constructor
    · intro hall
      cases hg : g a with
      | error e => simp [hg, bind, Except.bind] at hall
      | ok b =>
        cases hmap : as.mapM g with
        | error e => simp [hg, hmap, bind, Except.bind] at hall
        | ok bs' =>
          simp only [hg, hmap, bind, Except.bind, pure, Except.pure, Except.ok.injEq] at hall
          exact hall ▸ .cons ((hhead b).mp hg) (hrest.mp hmap)
    · intro hall
      cases hall with
      | cons hb hbs =>
        simp [(hhead _).mpr hb, hrest.mpr hbs, bind, Except.bind, pure, Except.pure]

theorem finds_of_forall₂ {ms : List (String × Value)} {fields : List Field} {cs : List Content}
    (h : List.Forall₂ (Finds ms) fields cs) {f : Field} (hf : f ∈ fields) : ∃ c, Finds ms f c := by
  induction h with
  | nil => cases hf
  | cons hfound _ ih =>
    rcases List.mem_cons.mp hf with rfl | hf
    · exact ⟨_, hfound⟩
    · exact ih hf

/-- An object gives the contents of a kind exactly if each of its fields is found. -/
theorem ofMembers_eq_ok_iff {s : Shape} {ms : List (String × Value)} {cs : List Content}
    (hnames : (s.fields.map Field.name).Nodup) :
    s.ofMembers ms = .ok cs ↔ List.Forall₂ (Finds ms) s.fields cs := by
  unfold ofMembers
  constructor
  · intro h
    cases hgather : gather s.fields ms [] with
    | error m => simp [hgather] at h
    | ok found =>
      simp only [hgather] at h
      exact (mapM_eq_ok_iff fun f hf c => fill_eq_ok_iff hnames hgather hf).mp h
  · intro h
    obtain ⟨found, hgather⟩ : ∃ found, gather s.fields ms [] = .ok found := by
      refine gather_of_fields fun f hf => ?_
      rcases (finds_of_forall₂ h hf).choose_spec with ⟨v, hone, hread⟩ | ⟨hnone, -⟩
      · exact .inr ⟨rfl, v, _, hone, hread⟩
      · exact .inl hnone
    simp only [hgather]
    exact (mapM_eq_ok_iff fun f hf c => fill_eq_ok_iff hnames hgather hf).mpr h

end Shape

end SocketGateway.Message
