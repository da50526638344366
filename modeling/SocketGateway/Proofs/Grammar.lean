import SocketGateway.Proofs.Envelopes
import SocketGateway.Proofs.Printing
import SocketGateway.Message.Client

/-!
# The grammar of client messages

Which texts a client may send, told by the members of the object that the text holds. Only three
names count, and each is looked for among all members, so it does not matter where they stand and
what stands between them.
-/

namespace SocketGateway

open SocketGateway.Json SocketGateway.Message

/-! ## Members that do not count -/

namespace Message

/-- Which members have a name, and in which order, is all that their contents depend on. -/
theorem perm_named {name : String} {names : List String} {ms ms' : List (String × α)}
    (hname : name ∈ names)
    (h : (ms'.filter (names.contains ·.1)).Perm (ms.filter (names.contains ·.1))) :
    (named name ms').Perm (named name ms) := by
  have hfilter : ∀ ms : List (String × α),
      named name ms = ((ms.filter (names.contains ·.1)).filter (·.1 == name)).map (·.2) := by
    intro ms
    rw [named, List.filter_filter]
    congr 1
    refine List.filter_congr fun m _ => ?_
    by_cases hm : m.1 = name <;> simp [hm, hname]
  rw [hfilter ms', hfilter ms]
  exact (h.filter _).map _

end Message

namespace ClientMessage

/-! ## What the members say -/

/-- The members of an object spell a message: one names its kind, and for an event one more holds
the name and at most one the arguments, an array; their values are kept in canonical form. -/
def IsSpelledBy (ms : List (String × Value)) : ClientMessage → Prop
  | .event name args =>
    named "type" ms = [.string "event"] ∧ named "event" ms = [.string name] ∧
      ((named "args" ms = [] ∧ args = []) ∨
        ∃ vs, named "args" ms = [.array vs] ∧ args = vs.map Value.canonical)
  | .disconnect => named "type" ms = [.string "disconnect"]

def countedNames : ClientMessage → List String
  | .event .. => ["type", "event", "args"]
  | .disconnect => ["type"]

/-- Members that count for a message may stand in any order, between any others. -/
theorem IsSpelledBy.of_perm {m : ClientMessage} {ms ms' : List (String × Value)}
    (h : m.IsSpelledBy ms)
    (hperm : (ms'.filter (m.countedNames.contains ·.1)).Perm
      (ms.filter (m.countedNames.contains ·.1))) : m.IsSpelledBy ms' := by
  cases m with
  | event name args =>
    obtain ⟨htype, hname, hargs⟩ := h
    have hcounted : ∀ n ∈ ["type", "event", "args"], (named n ms').Perm (named n ms) :=
      fun n hn => perm_named hn hperm
    refine ⟨?_, ?_, ?_⟩
    · exact List.perm_singleton.mp (htype ▸ hcounted "type" (by simp))
    · exact List.perm_singleton.mp (hname ▸ hcounted "event" (by simp))
    · have hperm := hcounted "args" (by simp)
      rcases hargs with ⟨hnone, hempty⟩ | ⟨vs, hone, heq⟩
      · exact .inl ⟨List.perm_nil.mp (hnone ▸ hperm), hempty⟩
      · exact .inr ⟨vs, List.perm_singleton.mp (hone ▸ hperm), heq⟩
  | disconnect =>
    have hcounted : (named "type" ms').Perm (named "type" ms) :=
      perm_named List.mem_cons_self hperm
    exact List.perm_singleton.mp (h ▸ hcounted)

/-! ## Building -/

theorem ofMembers_eventShape {ms : List (String × Value)} {cs : List Content} :
    eventShape.ofMembers ms = .ok cs ↔
      ∃ name args, cs = [.text name, .list args] ∧ named "event" ms = [.string name] ∧
        ((named "args" ms = [] ∧ args = []) ∨
          ∃ vs, named "args" ms = [.array vs] ∧ args = vs.map Value.canonical) := by
  rw [Shape.ofMembers_eq_ok_iff (by decide)]
  constructor
  · intro h
    rcases h with _ | ⟨hname, _ | ⟨hargs, _ | _⟩⟩
    rcases hname with ⟨v, hone, hread⟩ | ⟨-, hdefault⟩
    · obtain ⟨name, rfl, rfl⟩ := read_text_iff.mp hread
      rcases hargs with ⟨v, hargs, hread⟩ | ⟨hnone, hdefault⟩
      · obtain ⟨vs, rfl, rfl⟩ := read_list_iff.mp hread
        exact ⟨name, _, rfl, hone, .inr ⟨vs, hargs, rfl⟩⟩
      · cases hdefault
        exact ⟨name, [], rfl, hone, .inl ⟨hnone, rfl⟩⟩
    · cases hdefault
  · rintro ⟨name, args, rfl, hname, hargs⟩
    refine .cons (.inl ⟨_, hname, rfl⟩) (.cons ?_ .nil)
    rcases hargs with ⟨hnone, rfl⟩ | ⟨vs, hone, rfl⟩
    · exact .inr ⟨hnone, rfl⟩
    · exact .inl ⟨_, hone, read_list_iff.mpr ⟨vs, rfl, rfl⟩⟩

theorem ofMembers_disconnectShape (ms : List (String × Value)) :
    disconnectShape.ofMembers ms = .ok [] :=
  (Shape.ofMembers_eq_ok_iff (by decide)).mpr .nil

/-- A message is built from the members besides its kind exactly if all of them spell it. -/
theorem build_eq_ok_iff {m : ClientMessage} {ms : List (String × Value)} {k : String}
    (hk : k ∈ ["event", "disconnect"]) (hkind : named "type" ms = [.string k]) :
    build k (.members (others ms)) = .ok m ↔ m.IsSpelledBy ms := by
  simp only [List.mem_cons, List.not_mem_nil, or_false] at hk
  rcases hk with rfl | rfl
  · -- the members that hold a kind are not among those of the fields
    have hshape := @ofMembers_eventShape (others ms)
    rw [named_others (by decide), named_others (by decide)] at hshape
    simp only [build, if_pos, Shape.read]
    constructor
    · intro h
      cases hread : eventShape.ofMembers (others ms) with
      | error e => simp [hread] at h
      | ok cs =>
        obtain ⟨name, args, rfl, hspelled⟩ := hshape.mp hread
        simp only [hread, Except.ok.injEq] at h
        exact h ▸ ⟨hkind, hspelled⟩
    · intro h
      cases m with
      | event name args =>
        have hread := hshape.mpr ⟨name, args, rfl, h.2⟩
        simp only [hread]
      | disconnect => simp [IsSpelledBy, hkind] at h
  · rw [build, if_neg (by decide)]
    simp only [Shape.read, ofMembers_disconnectShape]
    cases m with
    | event name args => simp [IsSpelledBy, hkind]
    | disconnect => simp [IsSpelledBy, hkind]

/-! ## Reading -/

theorem decode_eq_ok_iff {m : ClientMessage} {text : String}
    (harray : ∀ vs, contents? text ≠ some (.array vs)) :
    decode text = .ok m ↔ ∃ ms, contents? text = some (.object ms) ∧ m.IsSpelledBy ms := by
  rw [decode, decodeWith_eq_ok_iff harray]
  constructor
  · rintro ⟨ms, k, hcontents, hkind, hk, hbuild⟩
    exact ⟨ms, hcontents, (build_eq_ok_iff hk hkind).mp hbuild⟩
  · rintro ⟨ms, hcontents, hspelled⟩
    cases m with
    | event name args =>
      exact ⟨ms, "event", hcontents, hspelled.1, by simp,
        (build_eq_ok_iff (by simp) hspelled.1).mpr hspelled⟩
    | disconnect =>
      exact ⟨ms, "disconnect", hcontents, hspelled, by simp,
        (build_eq_ok_iff (by simp) hspelled).mpr hspelled⟩

/-- **The grammar.** A text that holds no array is read as the message that its object spells, and
as an error if it holds no object or one that spells no message. So a text whose counted members
are those of an accepted one, in whatever order and between whatever other members, is read as
the same message. -/
theorem decode_grammar (text : String) (harray : ∀ vs, contents? text ≠ some (.array vs)) :
    (∀ name args, decode text = .ok (.event name args) ↔
      ∃ ms, contents? text = some (.object ms) ∧ named "type" ms = [.string "event"] ∧
        named "event" ms = [.string name] ∧
        ((named "args" ms = [] ∧ args = []) ∨
          ∃ vs, named "args" ms = [.array vs] ∧ args = vs.map Value.canonical)) ∧
    (decode text = .ok .disconnect ↔
      ∃ ms, contents? text = some (.object ms) ∧ named "type" ms = [.string "disconnect"]) ∧
    ((∃ e, decode text = .error e) ↔
      ∀ m ms, contents? text = some (.object ms) → ¬IsSpelledBy ms m) ∧
    ∀ m ms text' ms', decode text = .ok m → contents? text = some (.object ms) →
      contents? text' = some (.object ms') →
      (ms'.filter (m.countedNames.contains ·.1)).Perm
        (ms.filter (m.countedNames.contains ·.1)) →
      decode text' = .ok m := by
  refine ⟨fun name args => decode_eq_ok_iff harray, decode_eq_ok_iff harray, ?_, ?_⟩
  · constructor
    · rintro ⟨e, he⟩ m ms hcontents hspelled
      have hok := (decode_eq_ok_iff harray).mpr ⟨ms, hcontents, hspelled⟩
      cases he.symm.trans hok
    · intro hnone
      cases hdecode : decode text with
      | error e => exact ⟨e, rfl⟩
      | ok m =>
        obtain ⟨ms, hcontents, hspelled⟩ := (decode_eq_ok_iff harray).mp hdecode
        exact absurd hspelled (hnone m ms hcontents)
  · intro m ms text' ms' hdecode hcontents hcontents' hperm
    obtain ⟨ms₀, hms₀, hspelled⟩ := (decode_eq_ok_iff harray).mp hdecode
    cases hcontents.symm.trans hms₀
    have harray' : ∀ vs, contents? text' ≠ some (.array vs) := by
      intro vs heq
      cases hcontents'.symm.trans heq
    exact (decode_eq_ok_iff harray').mpr ⟨ms', hcontents', hspelled.of_perm hperm⟩

def kindLast : List (String × Value) :=
  [("args", .array [.object [("b", .int 1), ("a", .int 2)]]), ("note", .null),
    ("event", .string "go"), ("type", .string "event")]

def kindLastText : String :=
  "\x7b\"args\":[\x7b\"b\":1,\"a\":2\x7d],\"note\":null,\"event\":\"go\",\"type\":\"event\"\x7d"

theorem contents?_kindLastText : contents? kindLastText = some (.object kindLast) := by
  have hrender : (Value.object kindLast).render = kindLastText := by decide +kernel
  have hargs : (Value.array [.object [("b", .int 1), ("a", .int 2)]]).IsIntegral :=
    ⟨trivial, ⟨trivial, ⟨by decide, by decide⟩, ⟨by decide, by decide⟩, trivial⟩, trivial⟩
  rw [← hrender]
  exact contents?_render ⟨trivial, hargs, trivial, trivial, trivial, trivial⟩ (by decide)

theorem decode_grammar_kind_last :
    (∀ vs, contents? kindLastText ≠ some (.array vs)) ∧
      decode kindLastText = .ok (.event "go" [.object [("a", .int 2), ("b", .int 1)]]) := by
  have harray : ∀ vs, contents? kindLastText ≠ some (.array vs) := by
    intro vs heq
    cases contents?_kindLastText.symm.trans heq
  refine ⟨harray, ((decode_grammar kindLastText harray).1 _ _).mpr ?_⟩
  exact ⟨kindLast, contents?_kindLastText, rfl, rfl, .inr ⟨_, rfl, rfl⟩⟩

end ClientMessage

end SocketGateway
