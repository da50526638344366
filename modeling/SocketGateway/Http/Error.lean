/-!
# Why an upgrade fails

An upgrade goes wrong at the connection, in the bytes of the head, in its target, or in what it
asks for. Each cause has one text.
-/

namespace SocketGateway.Http

inductive HeadFault where
  | headerName
  | headerValue
  | newLine
  | status
  | token
  | version
deriving DecidableEq, Repr

def HeadFault.message : HeadFault → String
  | .headerName => "invalid header name"
  | .headerValue => "invalid header value"
  | .newLine => "invalid new line"
  | .status => "invalid response status"
  | .token => "invalid token"
  | .version => "invalid HTTP version"

inductive UriFault where
  | empty
  | character
  | authority
  | format
  | schemeTooLong
  | tooLong
deriving DecidableEq, Repr

def UriFault.message : UriFault → String
  | .empty => "empty string"
  | .character => "invalid uri character"
  | .authority => "invalid authority"
  | .format => "invalid format"
  | .schemeTooLong => "scheme too long"
  | .tooLong => "uri too long"

/-- A failure of the network: its number and its words. -/
structure IoFault where
  number : Nat
  words : String
deriving DecidableEq, Repr

namespace IoFault

def message (f : IoFault) : String := f.words ++ " (os error " ++ toString f.number ++ ")"

def refused : IoFault := ⟨111, "Connection refused"⟩

def inUse : IoFault := ⟨98, "Address already in use"⟩

def notAvailable : IoFault := ⟨99, "Cannot assign requested address"⟩

end IoFault

/-- Why an upgrade, or a write after it, failed. -/
inductive UpgradeError where
  | head (f : HeadFault)
  | tooManyHeaders
  | attack
  | unfinished
  | junkAfterRequest
  | wrongMethod
  | wrongVersion
  | noConnection
  | noUpgrade
  | noVersion
  | noKey
  | keyMismatch
  | target (f : UriFault)
  | noHost
  | noScheme
  | noTls
  | badStatus
  | unaskedProtocol
  | status (code : Nat) (words : String)
  | io (f : IoFault)
deriving DecidableEq, Repr

def UpgradeError.message : UpgradeError → String
  | .head f => "WebSocket protocol error: httparse error: " ++ f.message
  | .tooManyHeaders => "Space limit exceeded: Too many headers"
  | .attack => "Attack attempt detected"
  | .unfinished => "WebSocket protocol error: Handshake not finished"
  | .junkAfterRequest => "WebSocket protocol error: Junk after client request"
  | .wrongMethod => "WebSocket protocol error: Unsupported HTTP method used - only GET is allowed"
  | .wrongVersion => "WebSocket protocol error: HTTP version must be 1.1 or higher"
  | .noConnection => "WebSocket protocol error: No \"Connection: upgrade\" header"
  | .noUpgrade => "WebSocket protocol error: No \"Upgrade: websocket\" header"
  | .noVersion => "WebSocket protocol error: No \"Sec-WebSocket-Version: 13\" header"
  | .noKey => "WebSocket protocol error: No \"Sec-WebSocket-Key\" header"
  | .keyMismatch => "WebSocket protocol error: Key mismatch in \"Sec-WebSocket-Accept\" header"
  | .target f => "HTTP format error: " ++ f.message
  | .noHost => "URL error: No host name in the URL"
  | .noScheme => "URL error: URL scheme not supported"
  | .noTls => "URL error: TLS support not compiled in"
  | .badStatus => "HTTP format error: invalid status code"
  | .unaskedProtocol =>
    "WebSocket protocol error: SubProtocol error: Server sent a subprotocol but none was requested"
  | .status code words => "HTTP error: " ++ toString code ++ " " ++ words
  | .io f => "IO error: " ++ f.message

end SocketGateway.Http
