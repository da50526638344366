import SocketGateway.Proofs.Registry
import SocketGateway.Switchboard

/-!
# Deeds on a switchboard

Everything that can happen to a switchboard is a deed, and a property that every deed keeps is kept
by whatever a gateway does. A session is followed through its connection: `connection?` is the
connection that a session registered, as long as it has not ended. Of a session that has taken a
close frame out of its mailbox and passes it on, `isClosing` is true.
-/

namespace SocketGateway

open SocketGateway.Restart (Phase)
open SocketGateway.Wire (CloseCode Frame)

/-! ## Deeds -/

/-- What can happen to a switchboard: a stream is accepted, a session goes on or is cut off, the
registry is drained, somebody has hold of the coordinator or of a socket, or a connection is
registered that no session belongs to. -/
inductive Deed where
  | accept (peer : Net.SocketAddress)
  | session (now i : Nat) (cue : Cue)
  | cutOff (i : Nat) (o : Outcome)
  | drain (code : CloseCode) (reason : String)
  | request
  | transition (source target : Phase)
  | emit (s : Socket) (name : String) (args : List Json.Value)
  | close (s : Socket) (reason : String)
  | register (ns : Namespace)

namespace Stage

/-- Whether no handler was called in a session, nor ever will be if it has ended. -/
def isEarly : Stage → Bool
  | .open .. => false
  | .ended (.returned (.error _)) => true
  | .ended _ => false
  | _ => true

def handlers? : Stage → Option HandlerSet
  | .granting _ hs | .greeting _ hs | .open _ hs _ => some hs
  | _ => none

/-- Whether a session has taken a close frame out of its mailbox, which it passes on now. -/
def isClosing : Stage → Bool
  | .open _ _ ⟨_, _, .writing (.close _) (.finish .serverClosed)⟩ => true
  | _ => false

theorem isClosing_of_waiting {c : Connection} {hs : HandlerSet} {d : Drive}
    (h : d.mode = .waiting) : (Stage.open c hs d).isClosing = false := by
  unfold isClosing
  split
  · rename_i heq
    cases heq
    cases h
  · rfl

/-- A session that passes on a close frame ends when that is written, or cannot be. -/
theorem isClosing_or_over {c : Connection} {hs : HandlerSet} {d : Drive} {f : Frame} {next : After}
    (h : d.mode = .writing f next) (ok : Bool) :
    (Stage.open c hs d).isClosing = false ∨ ∃ reason, (d.written ok).mode = .over reason := by
  cases next with
  | resume =>
      left
      unfold isClosing
      split
      · rename_i heq
        cases heq
        cases h
      · rfl
  | finish reason => exact .inr ⟨reason, by simp [Drive.written, h, Drive.stop]⟩

theorem isLive_of_connection? {st : Stage} {c : Connection} (h : st.connection? = some c) :
    st.isLive = true := by
  cases st <;> first | rfl | cases h

end Stage

/-- **Only a close frame out of the mailbox makes a session pass one on for the gateway.** -/
theorem Drive.wake_mode_closing_iff {h : Config.Heartbeat} {now : Nat} {d : Drive} {o : Occasion}
    {n : Option Wire.CloseNotice} (hd : d.mode = .waiting) :
    (d.wake h now o).1.mode = .writing (.close n) (.finish .serverClosed) ↔
      o = .outbound (.close n) := by
  cases o with
  | inbound f =>
      cases f with
      | text s =>
          simp only [wake, hear]
          split <;> simp [hd, write]
      | _ => simp [wake, hear, write, Drive.stop, hd]
  | readFailed | streamEnded => simp [wake, Drive.stop]
  | outbound f => cases f <;> simp [wake, write]
  | tick =>
      simp only [wake]
      split <;> simp [write]

namespace Switchboard

variable {b b' b'' : Switchboard} {now i j : Nat} {cue : Cue} {c : Connection} {st st' : Stage}
  {hs : HandlerSet} {k : CallKind} {s : Socket} {rs : List Reaction} {o : Outcome}

def perform (b : Switchboard) : Deed → Option Switchboard
  | .accept peer => some (b.accept peer)
  | .session now i cue => b.advance now i cue
  | .cutOff i o => b.cutOff i o
  | .drain code reason => some (b.drain code reason).2
  | .request => some b.request.2
  | .transition source target => some (b.transition source target).2
  | .emit s name args => some (b.emit s name args).2
  | .close s reason => some (b.close s reason).2
  | .register ns => some (b.registerLoose ns).2

/-! ## Sessions and their connections -/

/-- The connection of a session, from when it is registered until the session ends. -/
def connection? (b : Switchboard) (i : Nat) : Option Connection := (b.stage? i).bind (·.connection?)

def isClosing (b : Switchboard) (i : Nat) : Bool := (b.stage? i).any (·.isClosing)

theorem stage?_congr (h : b'.sessions = b.sessions) : b'.stage? i = b.stage? i := by
  rw [stage?, stage?, h]

theorem connection?_congr (h : b'.sessions = b.sessions) : b'.connection? i = b.connection? i := by
  rw [connection?, connection?, stage?_congr h]

theorem isClosing_congr (h : b'.sessions = b.sessions) : b'.isClosing i = b.isClosing i := by
  rw [isClosing, isClosing, stage?_congr h]

theorem connection?_of_stage? (h : b.stage? i = some st) : b.connection? i = st.connection? := by
  rw [connection?, h]
  rfl

theorem isClosing_of_stage? (h : b.stage? i = some st) : b.isClosing i = st.isClosing := by
  rw [isClosing, h]
  rfl

theorem exists_stage?_of_connection? (h : b.connection? i = some c) :
    ∃ st, b.stage? i = some st ∧ st.connection? = some c :=
  Option.bind_eq_some_iff.mp h

theorem stage?_enter_self (h : b.stage? i = some st) : (b.enter i st').stage? i = some st' := by
  obtain ⟨session, hsession, rfl⟩ := Option.map_eq_some_iff.mp h
  simp [stage?, enter, hsession]

theorem stage?_enter_of_ne (h : i ≠ j) : (b.enter i st').stage? j = b.stage? j := by
  simp [stage?, enter, h]

theorem connection?_enter_self (h : b.stage? i = some st) :
    (b.enter i st').connection? i = st'.connection? :=
  connection?_of_stage? (stage?_enter_self h)

theorem connection?_enter_of_ne (h : i ≠ j) : (b.enter i st').connection? j = b.connection? j := by
  rw [connection?, connection?, stage?_enter_of_ne h]

theorem isClosing_enter_self (h : b.stage? i = some st) :
    (b.enter i st').isClosing i = st'.isClosing :=
  isClosing_of_stage? (stage?_enter_self h)

theorem isClosing_enter_of_ne (h : i ≠ j) : (b.enter i st').isClosing j = b.isClosing j := by
  rw [isClosing, isClosing, stage?_enter_of_ne h]

/-- A stream that was accepted has no connection yet. -/
theorem stage?_accept {peer : Net.SocketAddress} :
    (b.accept peer).stage? i =
      if i = b.sessions.length then some .handshaking else b.stage? i := by
  unfold stage? accept
  rcases Nat.lt_trichotomy i b.sessions.length with hlt | heq | hgt
  · simp [List.getElem?_append_left hlt, Nat.ne_of_lt hlt]
  · simp [heq]
  · have hout : ∀ session, (b.sessions ++ [session]).length ≤ i := by
      intro session
      rw [List.length_append]
      exact hgt
    rw [List.getElem?_eq_none (hout _), List.getElem?_eq_none (Nat.le_of_lt hgt),
      if_neg (Nat.ne_of_gt hgt)]

/-- Whether a session lives can be read off the stages of all sessions. -/
theorem hasLive_eq_false_iff :
    b.hasLive = false ↔ ∀ i st, b.stage? i = some st → st.isLive = false := by
  simp only [hasLive, List.any_eq_false, Bool.not_eq_true, stage?, Option.map_eq_some_iff]
  constructor
  · rintro h i _ ⟨session, hsession, rfl⟩
    exact h session (List.mem_of_getElem? hsession)
  · intro h session hmem
    obtain ⟨i, hi⟩ := List.mem_iff_getElem?.mp hmem
    exact h i _ ⟨session, hi, rfl⟩

end Switchboard

end SocketGateway
