import SocketGateway.Restart.Phase

/-!
# The restart coordinator

The coordinator holds the phase of the restart and counts the restarts that came to their end.
Anyone may `request` a restart; only the request that finds the coordinator idle starts one. The
supervisor moves it on with `transition`. Every change of phase gets a new version, by which a
`Watcher` knows whether it has missed one, even if the phase is again the one that it saw.
-/

namespace SocketGateway.Restart

/-! ## The coordinator -/

/-- The phase, the number of restarts completed (which wraps around), and the number of changes. -/
structure Coordinator where
  phase : Phase
  completed : UInt64
  version : Nat
deriving DecidableEq, Repr, Inhabited

structure IllegalTransition where
  source : Phase
  target : Phase
  current : Phase
deriving DecidableEq, Repr

namespace Coordinator

def initial : Coordinator := ⟨.idle, 0, 0⟩

/-- Enters a phase. Coming back to rest completes a restart. -/
def enter (c : Coordinator) (p : Phase) : Coordinator :=
  ⟨p, if p = .idle then c.completed + 1 else c.completed, c.version + 1⟩

/-- Starts a restart if none is under way, and says whether it did. -/
def request (c : Coordinator) : Bool × Coordinator :=
  if c.phase = .idle then (true, c.enter .draining) else (false, c)

/-- Moves from `source` to `target`; refused unless `source` is the current phase and `target` the
next one. -/
def transition (c : Coordinator) (source target : Phase) :
    Except IllegalTransition Unit × Coordinator :=
  if c.phase = source ∧ source.next = target then (.ok (), c.enter target)
  else (.error ⟨source, target, c.phase⟩, c)

end Coordinator

/-! ## Watching -/

/-- One who watches the phase: the version last seen. -/
structure Watcher where
  seen : Nat
deriving DecidableEq, Repr, Inhabited

namespace Watcher

def subscribe (c : Coordinator) : Watcher := ⟨c.version⟩

/-- Whether there was a change since the last look. -/
def hasChanged (w : Watcher) (c : Coordinator) : Bool := w.seen ≠ c.version

def look (_ : Watcher) (c : Coordinator) : Watcher := ⟨c.version⟩

end Watcher

end SocketGateway.Restart
