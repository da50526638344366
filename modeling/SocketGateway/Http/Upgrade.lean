import SocketGateway.Digest.Sha1
import SocketGateway.Http.Status
import SocketGateway.Http.Target
import SocketGateway.Text.Base64
import SocketGateway.Text.Split

/-!
# The upgrade

A client asks for an upgrade by a request with a key, and the gateway confirms it by a digest of
that key. Both sides check what the other one says: which demands are met decides between the
upgrade and one of its errors, in a fixed order.
-/

namespace SocketGateway.Http

/-! ## Keys -/

/-- What is added to a key before its digest is taken. -/
def keySuffix : String := "258EAFA5-E914-47DA-95CA-C5AB0DC85B11"

def acceptFor (key : List UInt8) : String :=
  Text.Base64.encode (Digest.Sha1.digest (key ++ ascii keySuffix))

/-! ## The gateway's side -/

/-- An upgrade that is asked for as it should be: the path of the target, and the key. -/
structure Offer where
  path : String
  key : List UInt8
deriving DecidableEq, Repr

def isPlain (value : List UInt8) : Bool := value.all fun b => b == 9 || (32 ≤ b && b < 127)

def hasWord (word : String) (value : List UInt8) : Bool :=
  let parts := Text.splitAt ' ' (value.map fun b => if b == 44 then ' ' else Char.ofNat b.toNat)
  parts.any fun p => sameLetters (p.map byte) (ascii word)

def headerIs (lines : List HeaderLine) (name : String) (test : List UInt8 → Bool) : Bool :=
  match header? name lines with
  | some value => isPlain value && test value
  | none => false

/-- What a request asks for, if `rest` is what arrived after its head. Method, version and target
are looked at first; then nothing may follow; then the headers must ask for an upgrade. -/
def RequestHead.offer (r : RequestHead) (rest : List UInt8) : Except UpgradeError Offer := do
  if r.method ≠ ascii "GET" then .error .wrongMethod
  if r.minor = 0 then .error .wrongVersion
  let target ← (Target.parse r.target).mapError .target
  if !rest.isEmpty then .error .junkAfterRequest
  if !headerIs r.headers "connection" (hasWord "upgrade") then .error .noConnection
  if !headerIs r.headers "upgrade" (sameLetters (ascii "websocket")) then .error .noUpgrade
  if header? "sec-websocket-version" r.headers ≠ some (ascii "13") then .error .noVersion
  match header? "sec-websocket-key" r.headers with
  | none => .error .noKey
  | some key => .ok ⟨target.pathText, key⟩

def grantText (key : List UInt8) : String :=
  "HTTP/1.1 101 Switching Protocols\r\nconnection: Upgrade\r\nupgrade: websocket\r\n" ++
    "sec-websocket-accept: " ++ acceptFor key ++ "\r\n\r\n"

def refusalText (path : String) : String :=
  "HTTP/1.1 404 Not Found\r\n\r\nunknown namespace " ++ path

/-! ## Requests that arrive in packets -/

/-- A request under way: the bytes so far, latest packet first, and how many packets there were. -/
structure Intake where
  packets : List (List UInt8)
deriving Repr

namespace Intake

def fresh : Intake := ⟨[]⟩

def packetSize : Nat := 4096

def bytes (i : Intake) : List UInt8 := i.packets.reverse.flatten

/-- Whether packets are too many, too large together, or too small on the average, to come from a
client that means well. -/
def isAttack (i : Intake) : Bool :=
  let count := i.packets.length
  let size := i.bytes.length
  65536 < size || 512 < count || (64 < count && size < count * 128)

def add (i : Intake) (packet : List UInt8) : Intake := ⟨packet :: i.packets⟩

def verdict (i : Intake) : Option (Except UpgradeError Offer) :=
  if i.isAttack then some (.error .attack)
  else
    match RequestHead.read i.bytes with
    | .unfinished => none
    | .fault e => some (.error e)
    | .found head rest => some (head.offer rest)

end Intake

/-! ## The client's side -/

def requestText (t : Target) (key : String) : String :=
  "GET " ++ t.requestText ++ " HTTP/1.1\r\nHost: " ++ t.hostAndPort ++
    "\r\nConnection: Upgrade\r\nUpgrade: websocket\r\nSec-WebSocket-Version: 13\r\n" ++
    "Sec-WebSocket-Key: " ++ key ++ "\r\n\r\n"

def AnswerHead.check (a : AnswerHead) (key : String) : Except UpgradeError Unit := do
  if a.minor = 0 then .error .wrongVersion
  if a.status < 100 then .error .badStatus
  if a.status ≠ 101 then .error (.status a.status (wordsOf a.status))
  if !headerIs a.headers "upgrade" (sameLetters (ascii "websocket")) then .error .noUpgrade
  if !headerIs a.headers "connection" (sameLetters (ascii "upgrade")) then .error .noConnection
  if header? "sec-websocket-accept" a.headers ≠ some (ascii (acceptFor (ascii key))) then
    .error .keyMismatch
  if (header? "sec-websocket-protocol" a.headers).isSome then .error .unaskedProtocol

end SocketGateway.Http
