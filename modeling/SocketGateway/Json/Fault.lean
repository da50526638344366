import SocketGateway.Json.Value
import SocketGateway.Text.Quoted

/-!
# What is wrong with a text

A reader fails with a `Cause` and the place where it stood: the characters it had not consumed,
and how many bytes of them belong to the fault. From these and the whole text the line and the
column follow. A `Mismatch` is a text that is JSON but not the message that was expected; it may
lack a place.
-/

namespace SocketGateway.Json

open SocketGateway.Text (quote)

/-! ## Causes -/

inductive Mismatch where
  | invalidType (found expected : String)
  | invalidValue (found expected : String)
  | invalidLength (length : Nat) (expected : String)
  | unknownVariant (name : String) (expected : List String)
  | missingField (name : String)
  | duplicateField (name : String)
deriving DecidableEq, Repr

/-- Why a text was refused. -/
inductive Cause where
  | endInList
  | endInObject
  | endInString
  | endInValue
  | expectedColon
  | expectedListCommaOrEnd
  | expectedObjectCommaOrEnd
  | expectedIdent
  | expectedValue
  | invalidEscape
  | invalidNumber
  | numberOutOfRange
  | controlCharacter
  | keyNotString
  | loneSurrogate
  | endOfHexEscape
  | trailingComma
  | trailingCharacters
  | tooDeep
  | mismatch (m : Mismatch)
deriving DecidableEq, Repr

/-- The three kinds of causes: the text ends too early, it is no JSON, or it is another message. -/
inductive Category where
  | ended
  | malformed
  | unexpected
deriving DecidableEq, Repr

def Cause.category : Cause → Category
  | .endInList | .endInObject | .endInString | .endInValue => .ended
  | .mismatch _ => .unexpected
  | _ => .malformed

/-- Names between grave accents: two joined by "or", more after "one of". -/
def alternatives : List String → String
  | [] => "there are no variants"
  | [a] => "expected " ++ tick a
  | [a, b] => "expected " ++ tick a ++ " or " ++ tick b
  | names => "expected one of " ++ ", ".intercalate (names.map tick)
where
  tick (name : String) : String := "\x60" ++ name ++ "\x60"

def Mismatch.message : Mismatch → String
  | .invalidType found expected => "invalid type: " ++ found ++ ", expected " ++ expected
  | .invalidValue found expected => "invalid value: " ++ found ++ ", expected " ++ expected
  | .invalidLength n expected => "invalid length " ++ toString n ++ ", expected " ++ expected
  | .unknownVariant name expected =>
    "unknown variant \x60" ++ name ++ "\x60, " ++ alternatives expected
  | .missingField name => "missing field \x60" ++ name ++ "\x60"
  | .duplicateField name => "duplicate field \x60" ++ name ++ "\x60"

def Cause.message : Cause → String
  | .endInList => "EOF while parsing a list"
  | .endInObject => "EOF while parsing an object"
  | .endInString => "EOF while parsing a string"
  | .endInValue => "EOF while parsing a value"
  | .expectedColon => "expected \x60:\x60"
  | .expectedListCommaOrEnd => "expected \x60,\x60 or \x60]\x60"
  | .expectedObjectCommaOrEnd => "expected \x60,\x60 or \x60\x7d\x60"
  | .expectedIdent => "expected ident"
  | .expectedValue => "expected value"
  | .invalidEscape => "invalid escape"
  | .invalidNumber => "invalid number"
  | .numberOutOfRange => "number out of range"
  | .controlCharacter => "control character (\\u0000-\\u001F) found while parsing a string"
  | .keyNotString => "key must be a string"
  | .loneSurrogate => "lone leading surrogate in hex escape"
  | .endOfHexEscape => "unexpected end of hex escape"
  | .trailingComma => "trailing comma"
  | .trailingCharacters => "trailing characters"
  | .tooDeep => "recursion limit exceeded"
  | .mismatch m => m.message

/-! ## Places -/

/-- A cause and where the reader stood: `rest` was not consumed, and the first `width` bytes of it
belong to the fault. -/
structure Fault where
  cause : Cause
  rest : List Char
  width : Nat
deriving DecidableEq, Repr

/-- A line, counted from one, and a number of bytes in it. -/
structure Position where
  line : Nat
  column : Nat
deriving DecidableEq, Repr

def byteLength (cs : List Char) : Nat := (String.ofList cs).utf8ByteSize

def Position.after (bytes : List UInt8) : Position :=
  ⟨1 + bytes.count 0x0A, (bytes.reverse.takeWhile (· != 0x0A)).length⟩

structure ReadError where
  cause : Cause
  position : Option Position
deriving DecidableEq, Repr

def Fault.inText (f : Fault) (text : List Char) : ReadError :=
  let bytes := (String.ofList text).toUTF8.toList
  let consumed := bytes.length - byteLength f.rest + f.width
  ⟨f.cause, some (Position.after (bytes.take consumed))⟩

def ReadError.message (e : ReadError) : String :=
  match e.position with
  | none => e.cause.message
  | some p =>
    e.cause.message ++ " at line " ++ toString p.line ++ " column " ++ toString p.column

/-! ## Values in error texts -/

def Value.describe : Value → String
  | .null => "null"
  | .bool b => "boolean \x60" ++ (if b then "true" else "false") ++ "\x60"
  | .number (.int i) => "integer \x60" ++ toString i ++ "\x60"
  | .number (.float x) => "floating point \x60" ++ Decimal.Layout.json.write x ++ "\x60"
  | .string s => "string " ++ quote s
  | .array _ => "sequence"
  | .object _ => "map"

end SocketGateway.Json
