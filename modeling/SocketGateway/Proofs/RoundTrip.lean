import SocketGateway.Proofs.Envelopes
import SocketGateway.Proofs.Printing
import SocketGateway.Message.Client
import SocketGateway.Message.Server

/-!
# Messages are read as they are written

What one side encodes the other side decodes, for every message that both sides can hold: any
strings, any settings of the heartbeat, and arguments of any shape whose numbers are integers of
64 bits and whose objects have their keys in order, as far as the reader nests.
-/

namespace SocketGateway

open SocketGateway.Json SocketGateway.Message

/-! ## Any tagged message -/

namespace Message

/-- The text of an object is read as the message that its kind builds from the other members. -/
theorem decodeWith_render {title : String} {kinds : List String}
    {build : String → Body → Except Mismatch α} {ms : List (String × Value)} {k : String} {a : α}
    (hv : (Value.object ms).IsIntegral) (hdepth : (Value.object ms).depth ≤ maxDepth)
    (hkind : named Envelope.tag ms = [.string k]) (hmem : k ∈ kinds)
    (hbuild : build k (.members (others ms)) = .ok a) :
    decodeWith title kinds build (Value.object ms).render = .ok a := by
  have hcontents := contents?_render hv hdepth
  refine (decodeWith_eq_ok_iff fun vs heq => ?_).mpr ⟨ms, k, hcontents, hkind, hmem, hbuild⟩
  cases hcontents.symm.trans heq

/-- Arguments whose numbers are integers of 64 bits and whose objects have their keys in order, as
all objects have that are kept. -/
def ArePlain (args : List Value) : Prop := ∀ v ∈ args, v.IsIntegral ∧ v.IsOrdered

theorem ArePlain.integral {args : List Value} (h : ArePlain args) :
    (Value.array args).IsIntegral :=
  ⟨trivial, Value.throughoutItems_iff.mpr fun v hv => (h v hv).1⟩

theorem ArePlain.canonical {args : List Value} (h : ArePlain args) :
    args.map Value.canonical = args :=
  Value.map_canonical_eq_self (Value.throughoutItems_iff.mpr fun v hv => (h v hv).2)

/-- Both sides have an event with a name and arguments; whether a field has a default does not
matter when it is there. -/
theorem ofMembers_event {title name : String} {args : List Value} {d d' : Option Content}
    (hargs : ArePlain args) :
    (Shape.mk title [⟨"event", .text, d⟩, ⟨"args", .list, d'⟩]).ofMembers
      [("event", .string name), ("args", .array args)] = .ok [.text name, .list args] := by
  refine (Shape.ofMembers_eq_ok_iff (by simp)).mpr (.cons ?_ (.cons ?_ .nil))
  · exact .inl ⟨.string name, rfl, rfl⟩
  · exact .inl ⟨.array args, rfl, read_list_iff.mpr ⟨args, rfl, by rw [hargs.canonical]⟩⟩

end Message

/-! ## Messages of clients -/

namespace ClientMessage

def args : ClientMessage → List Value
  | .event _ args => args
  | .disconnect => []

theorem build_event {name : String} {args : List Value} (hargs : ArePlain args) :
    build "event" (.members [("event", .string name), ("args", .array args)]) =
      .ok (.event name args) := by
  simp only [build, if_pos, Shape.read, eventShape, ofMembers_event hargs]

theorem decode_encode {m : ClientMessage} (hargs : ArePlain m.args)
    (hdepth : m.toValue.depth ≤ maxDepth) : decode m.encode = .ok m := by
  cases m with
  | event name args =>
    have hv : (toValue (.event name args)).IsIntegral :=
      ⟨trivial, trivial, trivial, hargs.integral, trivial⟩
    exact decodeWith_render hv hdepth rfl List.mem_cons_self (build_event hargs)
  | disconnect => exact decodeWith_render ⟨trivial, trivial, trivial⟩ hdepth rfl (by simp) rfl

end ClientMessage

/-! ## Messages of the gateway -/

namespace ServerMessage

def args : ServerMessage → List Value
  | .event _ args => args
  | _ => []

theorem isIntegral_count (n : UInt64) : (Value.int n.toNat).IsIntegral := by
  have hlt := n.toNat_lt
  show -0x8000000000000000 ≤ (n.toNat : Int) ∧ (n.toNat : Int) < 0x10000000000000000
  omega

theorem build_connected (sid ns : String) (interval timeout : UInt64) :
    build "connected" (.members [("sid", .string sid), ("namespace", .string ns),
      ("ping_interval", .int interval.toNat), ("ping_timeout", .int timeout.toNat)]) =
      .ok (.connected sid ns interval timeout) := by
  have hread : connectedShape.ofMembers [("sid", .string sid), ("namespace", .string ns),
      ("ping_interval", .int interval.toNat), ("ping_timeout", .int timeout.toNat)] =
      .ok [.text sid, .text ns, .count interval, .count timeout] := by
    refine (Shape.ofMembers_eq_ok_iff (by decide)).mpr
      (.cons ?_ (.cons ?_ (.cons ?_ (.cons ?_ .nil))))
    · exact .inl ⟨.string sid, rfl, rfl⟩
    · exact .inl ⟨.string ns, rfl, rfl⟩
    · exact .inl ⟨.int interval.toNat, rfl, read_count_int interval⟩
    · exact .inl ⟨.int timeout.toNat, rfl, read_count_int timeout⟩
  simp only [build, if_pos, Shape.read, hread]

theorem build_event {name : String} {args : List Value} (hargs : ArePlain args) :
    build "event" (.members [("event", .string name), ("args", .array args)]) =
      .ok (.event name args) := by
  rw [build, if_neg (by decide), if_pos rfl]
  simp only [Shape.read, eventShape, ofMembers_event hargs]

theorem build_error (message : String) :
    build "error" (.members [("message", .string message)]) = .ok (.error message) := by
  have hread : errorShape.ofMembers [("message", .string message)] = .ok [.text message] :=
    (Shape.ofMembers_eq_ok_iff (by decide)).mpr (.cons (.inl ⟨.string message, rfl, rfl⟩) .nil)
  rw [build, if_neg (by decide), if_neg (by decide)]
  simp only [Shape.read, hread]

theorem decode_encode {m : ServerMessage} (hargs : ArePlain m.args)
    (hdepth : m.toValue.depth ≤ maxDepth) : decode m.encode = .ok m := by
  cases m with
  | connected sid ns interval timeout =>
    have hv : (toValue (.connected sid ns interval timeout)).IsIntegral :=
      ⟨trivial, trivial, trivial, trivial, isIntegral_count interval, isIntegral_count timeout,
        trivial⟩
    exact decodeWith_render hv hdepth rfl List.mem_cons_self (build_connected ..)
  | event name args =>
    have hv : (toValue (.event name args)).IsIntegral :=
      ⟨trivial, trivial, trivial, hargs.integral, trivial⟩
    exact decodeWith_render hv hdepth rfl (by simp) (build_event hargs)
  | error message =>
    exact decodeWith_render ⟨trivial, trivial, trivial, trivial⟩ hdepth rfl (by simp)
      (build_error message)

end ServerMessage

/-! ## Both ways -/

namespace Message

/-- **Round trip.** Every message of the gateway and every message of a client is read as it was
written, if its arguments are plain and its text nests no deeper than the reader allows. The
strings in it are any strings. -/
theorem decode_encode_of_plain :
    (∀ m : ServerMessage, ArePlain m.args → m.toValue.depth ≤ 127 →
      ServerMessage.decode m.encode = .ok m) ∧
    ∀ m : ClientMessage, ArePlain m.args → m.toValue.depth ≤ 127 →
      ClientMessage.decode m.encode = .ok m := by
  constructor
  · intro m hargs hdepth
    exact ServerMessage.decode_encode hargs hdepth
  · intro m hargs hdepth
    exact ClientMessage.decode_encode hargs hdepth

/-- Arguments with both ends of the integers, an object in a list, and a key and a text that need
escapes. -/
def awkwardArgs : List Value :=
  [.int (-9223372036854775808), .int 18446744073709551615,
    .array [.object [("", .null), ("\"\\\x00", .string "\n\x1f😀")]]]

theorem arePlain_awkwardArgs : ArePlain awkwardArgs := by
  intro v hv
  simp only [awkwardArgs, List.mem_cons, List.not_mem_nil, or_false] at hv
  rcases hv with rfl | rfl | rfl
  · exact ⟨⟨by decide, by decide⟩, trivial⟩
  · exact ⟨⟨by decide, by decide⟩, trivial⟩
  · refine ⟨⟨trivial, ⟨trivial, trivial, trivial, trivial⟩, trivial⟩, trivial, ⟨?_, ?_⟩, trivial⟩
    · exact List.pairwise_pair.mpr (by decide)
    · exact ⟨trivial, trivial, trivial⟩

theorem decode_encode_of_plain_awkward :
    ServerMessage.decode (ServerMessage.encode (.event "\x7f\"" awkwardArgs)) =
        .ok (.event "\x7f\"" awkwardArgs) ∧
      ClientMessage.decode (ClientMessage.encode (.event "\x7f\"" awkwardArgs)) =
        .ok (.event "\x7f\"" awkwardArgs) :=
  ⟨decode_encode_of_plain.1 _ arePlain_awkwardArgs (by decide),
    decode_encode_of_plain.2 _ arePlain_awkwardArgs (by decide)⟩

end Message

end SocketGateway
