import SocketGateway.Wire.Frame

/-!
# Mailboxes

Every connection has a mailbox: others put frames into it, its task takes them out in order. Once
the task has gone nothing can be put in any more. A mailroom holds all mailboxes of a gateway
under the numbers they were given.
-/

namespace SocketGateway

open SocketGateway.Wire (Frame)

/-- A mailbox: whether somebody still takes frames out, and the frames in it, oldest first. -/
structure Mailbox where
  receiving : Bool
  frames : List Frame
deriving Repr

abbrev MailboxId := Nat

/-- All mailboxes. -/
structure Mailroom where
  boxes : List Mailbox
deriving Repr

namespace Mailroom

def empty : Mailroom := ⟨[]⟩

def next (m : Mailroom) : MailboxId := m.boxes.length

def create (m : Mailroom) : Mailroom := ⟨m.boxes ++ [⟨true, []⟩]⟩

def isReceiving (m : Mailroom) (i : MailboxId) : Bool :=
  match m.boxes[i]? with
  | some b => b.receiving
  | none => false

def frames (m : Mailroom) (i : MailboxId) : List Frame :=
  match m.boxes[i]? with
  | some b => b.frames
  | none => []

/-- Puts a frame behind the others, and says whether that was possible. -/
def post (m : Mailroom) (i : MailboxId) (f : Frame) : Bool × Mailroom :=
  if m.isReceiving i then
    (true, ⟨m.boxes.modify i fun b => { b with frames := b.frames ++ [f] }⟩)
  else (false, m)

def take (m : Mailroom) (i : MailboxId) : Option Frame × Mailroom :=
  match m.frames i with
  | [] => (none, m)
  | f :: rest => (some f, ⟨m.boxes.modify i fun b => { b with frames := rest }⟩)

def takeAll (m : Mailroom) (i : MailboxId) : List Frame × Mailroom :=
  (m.frames i, ⟨m.boxes.modify i fun b => { b with frames := [] }⟩)

/-- Nobody takes frames out any more; those in the mailbox are lost. -/
def hangUp (m : Mailroom) (i : MailboxId) : Mailroom :=
  ⟨m.boxes.modify i fun _ => ⟨false, []⟩⟩

end Mailroom

end SocketGateway
