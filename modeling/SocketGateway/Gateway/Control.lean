import SocketGateway.Error

/-!
# What a supervisor does

A supervisor is called to start, stop or rebind its listener, or to run. A call goes through
stages, and at each of them other parties may move before it goes on.
-/

namespace SocketGateway

open SocketGateway.Net (SocketAddress)

/-- Why the gateway is being stopped: somebody wanted just that, to bind again at a port, or to
shut down. -/
inductive StopPurpose where
  | stop
  | rebind (port : UInt16)
  | shutdown
deriving DecidableEq, Repr

/-- How far a stop is: the listener is to be closed, the registry to be drained, the sessions have
time to end, those left are aborted, and the registry was drained again. -/
inductive StopStage where
  | closing
  | draining
  | grace
  | aborting
  | swept
deriving DecidableEq, Repr

/-- Which attempt of a rebind to bind this is, or whether it is a start of its own. -/
inductive Attempt where
  | start
  | rebind (number : Nat)
deriving DecidableEq, Repr

/-- What a call gives back: nothing, an address, or an error. -/
abbrev Answer := Except GatewayError (Option SocketAddress)

/-- What a supervisor does: wait for a call, stop, wait before an attempt to bind, attempt it, begin
another round of a run, accept streams, or nothing any more. -/
inductive Control where
  | ready
  | stopping (purpose : StopPurpose) (stage : StopStage)
  | delaying (port : UInt16) (number : Nat)
  | binding (port : UInt16) (attempt : Attempt)
  | looping
  | accepting
  | finished (result : Except GatewayError Unit)

end SocketGateway
