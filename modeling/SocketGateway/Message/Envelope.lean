import SocketGateway.Json.Reader

/-!
# Tagged messages

A message is an object with a member `type` that says which kind it is, or a list that starts
with that kind. The kind may stand anywhere in the object. `Envelope.read` finds it and keeps
everything else as it was read; what belongs to a kind is the matter of `Message.Shape`.
-/

namespace SocketGateway.Message

open SocketGateway.Json

/-! ## The type -/

/-- What comes with the kind of a message: members of an object or items of a list. -/
inductive Body where
  | members (ms : List (String × Value))
  | items (vs : List Value)

structure Envelope where
  kind : String
  body : Body

namespace Envelope

def tag : String := "type"

/-! ## The kind -/

def readKind (size : Nat) (kinds : List String) (cs : List Char) : Reading String :=
  let wanted := "variant identifier"
  match skipSpace cs with
  | '[' :: rest => fail (.mismatch (.invalidType "sequence" wanted)) ('[' :: rest) 0
  | '{' :: rest => fail (.mismatch (.invalidType "map" wanted)) ('{' :: rest) 0
  | cs =>
    match readScalar size cs with
    | .error f => .error f
    | .ok (.string s, rest) =>
      if kinds.contains s then .ok (s, rest)
      else fail (.mismatch (.unknownVariant s kinds)) rest 0
    | .ok (v, rest) => fail (.mismatch (.invalidType v.describe wanted)) rest 0

/-! ## Objects and lists -/

/-- The text after the end of an object that was left early, if the end comes next. -/
def afterObject (cs : List Char) : List Char :=
  match skipSpace cs with
  | '}' :: rest => rest
  | rest => rest

/-- Reads the members of a message; `kind` is the kind if it was met, and `acc` holds the other
members, latest first. -/
def readObject (size : Nat) (kinds : List String) :
    Nat → Bool → Option String → List (String × Value) → List Char → Reading Envelope
  | 0, _, _, _, cs => fail (.mismatch (.missingField tag)) cs 0
  | fuel + 1, first, kind, acc, cs =>
    match nextKey first cs with
    | .error f => .error f
    | .ok (.done rest) =>
      match kind with
      | none => fail (.mismatch (.missingField tag)) rest 0
      | some k => .ok (⟨k, .members acc.reverse⟩, rest)
    | .ok (.more rest) =>
      match readString size [] rest with
      | .error f => .error f
      | .ok (key, rest) =>
        if key = tag then
          if kind.isSome then fail (.mismatch (.duplicateField tag)) (afterObject rest) 0
          else
            match passColon rest with
            | .error f => .error f
            | .ok rest =>
              match readKind size kinds rest with
              | .error f => .error f
              | .ok (k, rest) => readObject size kinds fuel false (some k) acc rest
        else
          match passColon rest with
          | .error f => .error f
          | .ok rest =>
            match readValue size (maxDepth - 1) rest with
            | .error f => .error f
            | .ok (v, rest) => readObject size kinds fuel false kind ((key, v) :: acc) rest

/-- Reads a message that is a list, after its bracket. -/
def readList (size : Nat) (kinds : List String) (cs : List Char) : Reading Envelope :=
  match nextItem true cs with
  | .error f => .error f
  | .ok (.done rest) => fail (.mismatch (.missingField tag)) rest 0
  | .ok (.more rest) =>
    match readKind size kinds rest with
    | .error f => .error f
    | .ok (k, rest) =>
      match readItems (readValue size (maxDepth - 1)) size false [] rest with
      | .error f => .error f
      | .ok (vs, rest) => .ok (⟨k, .items vs⟩, rest)

/-- Reads a message of one of `kinds`; `title` names the family of messages. -/
def read (title : String) (kinds : List String) (cs : List Char) : Reading Envelope :=
  let size := cs.length + 1
  match skipSpace cs with
  | '[' :: rest => readList size kinds rest
  | '{' :: rest => readObject size kinds size true none [] rest
  | cs =>
    match readScalar size cs with
    | .error f => .error f
    | .ok (v, rest) =>
      fail (.mismatch (.invalidType v.describe ("internally tagged enum " ++ title))) rest 0

end Envelope

end SocketGateway.Message
