import SocketGateway.Message.Envelope

/-!
# What belongs to a kind of message

A kind has fields in a fixed order. Read from an object, each field is found by name, other members
count for nothing, and a name that occurs twice is an error; read from a list, the items are the
fields in order and there may be no more. The errors found here have no place in the text.
-/

namespace SocketGateway.Message

open SocketGateway.Json

/-! ## Fields -/

inductive FieldType where
  | text
  | list
  | count
deriving DecidableEq, Repr

inductive Content where
  | text (s : String)
  | list (vs : List Value)
  | count (n : UInt64)

/-- A field; one with a default may be absent. -/
structure Field where
  name : String
  type : FieldType
  default? : Option Content

structure Shape where
  title : String
  fields : List Field

def FieldType.read : FieldType → Value → Except Mismatch Content
  | .text, .string s => .ok (.text s)
  | .text, v => .error (.invalidType v.describe "a string")
  | .list, .array vs => .ok (.list (Value.canonicalItems vs []))
  | .list, v => .error (.invalidType v.describe "a sequence")
  | .count, .number (.int i) =>
    if i < 0 then .error (.invalidValue (Value.int i).describe "u64")
    else .ok (.count i.toNat.toUInt64)
  | .count, v => .error (.invalidType v.describe "u64")

namespace Shape

/-! ## From an object -/

/-- Goes through the members in order and collects the contents of the fields among them. -/
def gather (fields : List Field) :
    List (String × Value) → List (String × Content) → Except Mismatch (List (String × Content))
  | [], found => .ok found
  | (k, v) :: ms, found =>
    match fields.find? (·.name == k) with
    | none => gather fields ms found
    | some f =>
      if found.any (·.1 == k) then .error (.duplicateField k)
      else
        match f.type.read v with
        | .error m => .error m
        | .ok c => gather fields ms ((k, c) :: found)

/-- The content of a field that was found, its default, or an error. -/
def fill (found : List (String × Content)) (f : Field) : Except Mismatch Content :=
  match found.lookup f.name with
  | some c => .ok c
  | none =>
    match f.default? with
    | some c => .ok c
    | none => .error (.missingField f.name)

def ofMembers (s : Shape) (ms : List (String × Value)) : Except Mismatch (List Content) :=
  match gather s.fields ms [] with
  | .error m => .error m
  | .ok found => s.fields.mapM (fill found)

/-! ## From a list -/

def elements (n : Nat) : String := toString n ++ (if n = 1 then " element" else " elements")

def readAll (s : Shape) : List Field → Nat → List Value → Except Mismatch (List Content)
  | [], _, _ => .ok []
  | f :: fs, done, [] =>
    match f.default? with
    | some c =>
      match readAll s fs (done + 1) [] with
      | .error m => .error m
      | .ok cs => .ok (c :: cs)
    | none =>
      .error (.invalidLength done
        ("struct variant " ++ s.title ++ " with " ++ elements s.fields.length))
  | f :: fs, done, v :: vs =>
    match f.type.read v with
    | .error m => .error m
    | .ok c =>
      match readAll s fs (done + 1) vs with
      | .error m => .error m
      | .ok cs => .ok (c :: cs)

def ofItems (s : Shape) (vs : List Value) : Except Mismatch (List Content) :=
  match readAll s s.fields 0 vs with
  | .error m => .error m
  | .ok cs =>
    if s.fields.length < vs.length then
      .error (.invalidLength vs.length (elements s.fields.length ++ " in sequence"))
    else .ok cs

def read (s : Shape) : Body → Except Mismatch (List Content)
  | .members ms => s.ofMembers ms
  | .items vs => s.ofItems vs

end Shape

/-! ## Whole texts -/

/-- Reads a message: its kind, then the contents of the shape that `shape` gives the kind, then the
end of the text. An error in the contents has no place and comes before one in the end. -/
def decodeWith (title : String) (kinds : List String) (build : String → Body → Except Mismatch α)
    (text : String) : Except ReadError α :=
  let cs := text.toList
  match Envelope.read title kinds cs with
  | .error f => .error (f.inText cs)
  | .ok (envelope, rest) =>
    match build envelope.kind envelope.body with
    | .error m => .error ⟨.mismatch m, none⟩
    | .ok a =>
      match expectEnd rest with
      | .error f => .error (f.inText cs)
      | .ok () => .ok a

end SocketGateway.Message
