import SocketGateway.Config.Error
import SocketGateway.Http.Error
import SocketGateway.Json.Fault
import SocketGateway.Net.Address
import SocketGateway.Restart.Coordinator

/-!
# Errors of the gateway

Everything that an operation of the gateway can fail with, by cause, and the texts.
-/

namespace SocketGateway

inductive GatewayError where
  | config (e : Config.Error)
  | bind (address : Net.SocketAddress) (fault : Http.IoFault)
  | invalidAddress (text : String)
  | notStarted
  | websocket (e : Http.UpgradeError)
  | protocol (e : Json.ReadError)
  | unknownNamespace (path : String)
  | capacityReached (limit : Nat)
  | connectionClosed (id : String)
  | invalidTransition (t : Restart.IllegalTransition)
  | io (fault : Http.IoFault)
deriving DecidableEq, Repr

def GatewayError.message : GatewayError → String
  | .config e => "configuration error: " ++ e.message
  | .bind address fault => "failed to bind " ++ address.text ++ ": " ++ fault.message
  | .invalidAddress text => "invalid listen address " ++ text
  | .notStarted => "supervisor has no bound listener"
  | .websocket e => "websocket error: " ++ e.message
  | .protocol e => "malformed message: " ++ e.message
  | .unknownNamespace path => "unknown namespace " ++ path
  | .capacityReached limit => "connection limit of " ++ toString limit ++ " reached"
  | .connectionClosed id => "connection " ++ id ++ " is closed"
  | .invalidTransition t =>
    "illegal restart transition " ++ t.source.name ++ " -> " ++ t.target.name ++
      " (current phase " ++ t.current.name ++ ")"
  | .io fault => "io error: " ++ fault.message

end SocketGateway
