/-!
# Phases of a restart

A restart goes through the phases `idle → draining → waiting → rebinding → idle`. There is no
other way between them and no way back.
-/

namespace SocketGateway.Restart

/-- Where a restart stands; `idle` while there is none. -/
inductive Phase where
  | idle
  | draining
  | waiting
  | rebinding
deriving DecidableEq, Repr, Inhabited

namespace Phase

/-- The only phase that may come next. -/
def next : Phase → Phase
  | .idle => .draining
  | .draining => .waiting
  | .waiting => .rebinding
  | .rebinding => .idle

def inProgress (p : Phase) : Bool := p ≠ .idle

def name : Phase → String
  | .idle => "Idle"
  | .draining => "Draining"
  | .waiting => "Waiting"
  | .rebinding => "Rebinding"

def ofName? (s : String) : Option Phase :=
  [idle, draining, waiting, rebinding].find? fun p => p.name == s

/-- Four steps lead back. -/
theorem next_next_next_next (p : Phase) : p.next.next.next.next = p := by
  cases p <;> rfl

end Phase

end SocketGateway.Restart
