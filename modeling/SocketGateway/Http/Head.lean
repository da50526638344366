import SocketGateway.Http.Error
import SocketGateway.Text.Utf8

/-!
# Heads of requests and answers

A head is a first line and header lines up to an empty one. Lines end with a line feed, with or
without a carriage return. The readers take a head from the front of what arrived and tell a head
that is not there yet from one that can never become right.
-/

namespace SocketGateway.Http

/-! ## Readers -/

/-- What a reader finds at the front of what arrived: not enough, a fault, or something and the
rest. -/
inductive Found (α : Type) where
  | unfinished
  | fault (e : UpgradeError)
  | found (a : α) (rest : List UInt8)

namespace Found

def andThen (f : Found α) (next : α → List UInt8 → Found β) : Found β :=
  match f with
  | .unfinished => .unfinished
  | .fault e => .fault e
  | .found a rest => next a rest

def map (g : α → β) (f : Found α) : Found β := f.andThen fun a rest => .found (g a) rest

end Found

structure HeaderLine where
  name : List UInt8
  value : List UInt8
deriving DecidableEq, Repr

/-- The first line of a request, and its headers. `minor` is the last digit of the version. -/
structure RequestHead where
  method : List UInt8
  target : String
  minor : Nat
  headers : List HeaderLine
deriving DecidableEq, Repr

structure AnswerHead where
  minor : Nat
  status : Nat
  headers : List HeaderLine
deriving DecidableEq, Repr

/-! ## Bytes -/

def byte (c : Char) : UInt8 := c.toNat.toUInt8

def ascii (s : String) : List UInt8 := s.toList.map byte

def lowerByte (b : UInt8) : UInt8 := if 65 ≤ b && b ≤ 90 then b + 32 else b

/-- Whether two texts differ at most in the case of letters. -/
def sameLetters (a b : List UInt8) : Bool := a.map lowerByte == b.map lowerByte

def isTokenByte (b : UInt8) : Bool :=
  (65 ≤ b && b ≤ 90) || (97 ≤ b && b ≤ 122) || (48 ≤ b && b ≤ 57) ||
    (ascii "!#$%&'*+-.^_\x60|~").contains b

def isTargetByte (b : UInt8) : Bool := (0x21 ≤ b && b ≤ 0x7E) || 0x80 ≤ b

def isValueByte (b : UInt8) : Bool := b == 9 || (0x20 ≤ b && b ≤ 0x7E) || 0x80 ≤ b

def isGap (b : UInt8) : Bool := b == 32 || b == 9

/-! ## Lines -/

def readLineEnd (e : HeadFault) : List UInt8 → Found Unit
  | [] => .unfinished
  | 10 :: rest => .found () rest
  | 13 :: rest =>
    match rest with
    | [] => .unfinished
    | 10 :: rest => .found () rest
    | _ => .fault (.head e)
  | _ => .fault (.head e)

def skipEmptyLines : List UInt8 → Found Unit
  | [] => .unfinished
  | 10 :: rest => skipEmptyLines rest
  | 13 :: rest =>
    match rest with
    | [] => .unfinished
    | 10 :: rest => skipEmptyLines rest
    | _ => .fault (.head .newLine)
  | bytes => .found () bytes

/-- The longest front of which all bytes are in a class, and the rest. -/
def spanBytes (p : UInt8 → Bool) (bytes : List UInt8) : List UInt8 × List UInt8 := bytes.span p

def readMethod (bytes : List UInt8) : Found (List UInt8) :=
  let (method, rest) := spanBytes isTokenByte bytes
  match method, rest with
  | _, [] => .unfinished
  | _ :: _, 32 :: rest => .found method rest
  | _, _ => .fault (.head .token)

def readTarget (bytes : List UInt8) : Found String :=
  let (target, rest) := spanBytes isTargetByte bytes
  match target, rest with
  | _, [] => .unfinished
  | _ :: _, 32 :: rest =>
    match Text.Utf8.decode? target with
    | some s => .found s rest
    | none => .fault (.head .token)
  | _, _ => .fault (.head .token)

def readVersion (bytes : List UInt8) : Found Nat :=
  let front := bytes.take 8
  if front = ascii "HTTP/1.0" then .found 0 (bytes.drop 8)
  else if front = ascii "HTTP/1.1" then .found 1 (bytes.drop 8)
  else if front.length < 8 && front.take 7 == (ascii "HTTP/1.").take front.length then .unfinished
  else .fault (.head .version)

/-! ## Headers -/

def headerLimit : Nat := 124

/-- Reads the value of a header up to the end of its line. Blanks around it do not belong to it. -/
def readValue (bytes : List UInt8) : Found (List UInt8) :=
  let (value, rest) := spanBytes isValueByte (bytes.dropWhile isGap)
  (readLineEnd .headerValue rest).map fun _ => (value.reverse.dropWhile isGap).reverse

def readHeader (bytes : List UInt8) : Found HeaderLine :=
  let (name, rest) := spanBytes isTokenByte bytes
  match name, rest with
  | _, [] => .unfinished
  | _ :: _, 58 :: rest => (readValue rest).map fun value => ⟨name, value⟩
  | _, _ => .fault (.head .headerName)

/-- Reads header lines up to the empty line; `lines` holds those read, latest first. -/
def readHeaders : Nat → List HeaderLine → List UInt8 → Found (List HeaderLine)
  | 0, _, _ => .unfinished
  | _ + 1, _, [] => .unfinished
  | fuel + 1, lines, b :: bytes =>
    if b == 13 || b == 10 then
      (readLineEnd .newLine (b :: bytes)).map fun _ => lines.reverse
    else
      match readHeader (b :: bytes) with
      | .unfinished => .unfinished
      | .fault e => .fault e
      | .found line rest =>
        if headerLimit ≤ lines.length then .fault .tooManyHeaders
        else readHeaders fuel (line :: lines) rest

def header? (name : String) (lines : List HeaderLine) : Option (List UInt8) :=
  (lines.find? fun l => sameLetters l.name (ascii name)).map (·.value)

/-! ## Heads -/

def RequestHead.read (bytes : List UInt8) : Found RequestHead :=
  (skipEmptyLines bytes).andThen fun _ bytes =>
  (readMethod bytes).andThen fun method bytes =>
  (readTarget bytes).andThen fun target bytes =>
  (readVersion bytes).andThen fun minor bytes =>
  (readLineEnd .newLine bytes).andThen fun _ bytes =>
  (readHeaders (bytes.length + 1) [] bytes).map fun headers => ⟨method, target, minor, headers⟩

def readStatus : List UInt8 → Found Nat
  | a :: rest =>
    if !isDigit a then .fault (.head .status)
    else
      match rest with
      | [] => .unfinished
      | b :: rest =>
        if !isDigit b then .fault (.head .status)
        else
          match rest with
          | [] => .unfinished
          | c :: rest =>
            if !isDigit c then .fault (.head .status)
            else .found (100 * digit a + 10 * digit b + digit c) rest
  | [] => .unfinished
where
  isDigit (b : UInt8) : Bool := 48 ≤ b && b ≤ 57
  digit (b : UInt8) : Nat := b.toNat - 48

def readWords : List UInt8 → Found Unit
  | 32 :: rest => readLineEnd .status (spanBytes isValueByte rest).2
  | bytes => readLineEnd .status bytes

def AnswerHead.read (bytes : List UInt8) : Found AnswerHead :=
  (skipEmptyLines bytes).andThen fun _ bytes =>
  (readVersion bytes).andThen fun minor bytes =>
  match bytes with
  | [] => .unfinished
  | 32 :: bytes =>
    (readStatus bytes).andThen fun status bytes =>
    (readWords bytes).andThen fun _ bytes =>
    (readHeaders (bytes.length + 1) [] bytes).map fun headers => ⟨minor, status, headers⟩
  | _ => .fault (.head .version)

end SocketGateway.Http
