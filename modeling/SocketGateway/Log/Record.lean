/-!
# Log records

What is logged: a level, a message, and named fields.
-/

namespace SocketGateway.Log

/-- How weighty a record is, the weightiest first. -/
inductive Level where
  | error
  | warn
  | info
  | debug
  | trace
deriving DecidableEq, Repr

namespace Level

/-- All levels, the weightiest first. -/
def all : List Level := [.error, .warn, .info, .debug, .trace]

def name : Level → String
  | .error => "ERROR"
  | .warn => "WARN"
  | .info => "INFO"
  | .debug => "DEBUG"
  | .trace => "TRACE"

def rank : Level → Nat
  | .error => 1
  | .warn => 2
  | .info => 3
  | .debug => 4
  | .trace => 5

end Level

/-- A record: its level, its message, and its fields in order. -/
structure Record where
  level : Level
  message : String
  fields : List (String × String)
deriving DecidableEq, Repr

/-- A control character by which a terminal could be steered, written by its number; every other
character as it is. -/
def harmless (c : Char) : List Char :=
  let n := c.toNat
  let digits := Nat.toDigits 16 n
  if n = 0x1B || n = 0x7F || n = 0x07 || n = 0x08 || n = 0x0C then
    ['\\', 'x'] ++ List.replicate (2 - digits.length) '0' ++ digits
  else if 0x80 ≤ n && n ≤ 0x9F then ['\\', 'u', '\x7b'] ++ digits ++ ['\x7d']
  else [c]

def Record.line (r : Record) : String :=
  r.level.name ++ " " ++ String.ofList (r.message.toList.flatMap harmless) ++
    String.join (r.fields.map fun f => " " ++ f.1 ++ "=" ++ f.2)

end SocketGateway.Log
