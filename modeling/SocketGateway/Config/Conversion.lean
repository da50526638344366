import SocketGateway.Config.Settings
import SocketGateway.Config.Tree
import SocketGateway.Decimal.Layout
import SocketGateway.Decimal.Reader
import SocketGateway.Text.Quoted

/-!
# Settings from a tree

Every setting is read from the value at its key by conversion: numbers come from numbers, from
text, and from the words for yes and no; text comes from text, numbers and truth values. A section
is a table, or a list that gives its settings in order.
-/

namespace SocketGateway.Config

open SocketGateway.Decimal (Binary64 Layout)
open SocketGateway.Text (quote)

/-! ## Values in error texts -/

/-- Words for a number or truth value between grave accents. -/
def ticked (words value : String) : String := words ++ " \x60" ++ value ++ "\x60"

def truth (b : Bool) : String := if b then "true" else "false"

def Node.unconverted : Node → String
  | .nil => "unit value"
  | .bool b => ticked "boolean" (truth b)
  | .int i => ticked "64-bit integer" (toString i)
  | .float x => ticked "floating point" (Layout.plain.write x)
  | .string s => "string " ++ quote s
  | .array _ => "sequence"
  | .table _ => "map"

/-- Doubles in error texts about structure: positional and with a point. -/
def pointed : Layout := ⟨none, true, .away⟩

def Node.misplaced : Node → String
  | .int i => ticked "integer" (toString i)
  | .float x => ticked "floating point" (pointed.write x)
  | n => n.unconverted

/-! ## Single values -/

def readText : Value → Except Error String
  | (_, .string s) => .ok s
  | (_, .bool b) => .ok (truth b)
  | (_, .int i) => .ok (toString i)
  | (_, .float x) => .ok (Layout.plain.write x)
  | (o, n) => .error (.conversion n.unconverted "a string" "" o)

/-- The number that a word for yes or no stands for. -/
def wordNumber? (s : String) : Option Nat :=
  let s := s.toLower
  if ["true", "on", "yes"].contains s then some 1
  else if ["false", "off", "no"].contains s then some 0
  else none

/-- Reads a natural number of 64 bits; a double is rounded, a half away from zero, and kept in
range. -/
def readNat : Value → Except Error Nat
  | (_, .bool b) => .ok (if b then 1 else 0)
  | (_, .float x) => .ok (x.clamp 0 (UInt64.size - 1)).toNat
  | (o, .int i) =>
    if i < 0 then
      .error (.conversion (Node.int i).unconverted "an unsigned 64 bit or less integer" "" o)
    else .ok i.toNat
  | (o, .string s) =>
    match wordNumber? s with
    | some n => .ok n
    | none =>
      match Decimal.unsignedOf? UInt64.size s with
      | some n => .ok n
      | none => .error (.conversion (Node.string s).unconverted "an integer" "" o)
  | (o, n) => .error (.conversion n.unconverted "an integer" "" o)

def readNarrow (bits : Nat) (v : Value) : Except Error Nat := do
  let n ← readNat v
  if n < Nat.pow 2 bits then .ok n
  else
    .error (.conversion (ticked "64-bit unsigned integer" (toString n))
      ("an unsigned " ++ toString bits ++ " bit integer") "" none)

/-- Reads the texts of a list from the `i`th on. -/
def readItems : Nat → List Value → Except Error (List String)
  | _, [] => .ok []
  | i, v :: vs =>
    match readText v with
    | .error e => .error (e.inItem i)
    | .ok s =>
      match readItems (i + 1) vs with
      | .error e => .error e
      | .ok ss => .ok (s :: ss)

def readTexts : Value → Except Error (List String)
  | (_, .array items) => readItems 0 items
  | (_, n) => .error (.structural ("invalid type: " ++ n.misplaced ++ ", expected a sequence") "")

/-! ## Sections -/

/-- A section: not there, by name, or in order. -/
inductive Section where
  | absent
  | table (members : List (String × Value))
  | list (items : List Value)

/-- What is needed to read a section: its name in error texts and how many settings it has. -/
structure SectionForm where
  title : String
  size : Nat

namespace Section

def ofValue (form : SectionForm) : Value → Except Error Section
  | (_, .nil) => .ok .absent
  | (_, .table ms) => .ok (.table ms)
  | (_, .array items) => .ok (.list items)
  | (_, n) =>
    .error (.structural ("invalid type: " ++ n.misplaced ++ ", expected struct " ++ form.title) "")

def unlessNil (read : Value → Except Error α) : Value → Except Error (Option α)
  | (_, .nil) => .ok none
  | v => (read v).map some

/-- Reads the setting called `name`, the `i`th of its section. A list must be long enough for
it. -/
def setting (s : Section) (form : SectionForm) (i : Nat) (name : String)
    (read : Value → Except Error α) : Except Error (Option α) :=
  match s with
  | .absent => .ok none
  | .table ms =>
    match Table.lookup name ms with
    | none => .ok none
    | some v => (unlessNil read v).mapError (·.inKey name)
  | .list items =>
    match items[i]? with
    | none =>
      .error (.structural ("invalid length " ++ toString i ++ ", expected struct " ++ form.title ++
        " with " ++ toString form.size ++ (if form.size = 1 then " element" else " elements")) "")
    | some v => (unlessNil read v).mapError (·.inItem i)

end Section

def serverForm : SectionForm := ⟨"PartialServerSettings", 2⟩

def gatewayForm : SectionForm := ⟨"PartialGatewaySettings", 6⟩

def heartbeatForm : SectionForm := ⟨"PartialHeartbeatSettings", 2⟩

def loggingForm : SectionForm := ⟨"PartialLoggingSettings", 1⟩

def readSection (tree : Value) (name : String) (form : SectionForm)
    (read : Section → Except Error α) : Except Error α :=
  let v := match tree with
    | (_, .table ms) => (Table.lookup name ms).getD Value.nil
    | _ => Value.nil
  (Section.ofValue form v >>= read).mapError (·.inKey name)

/-! ## All settings -/

/-- The settings of a tree: what it does not say is as by default. -/
def Settings.ofTree (tree : Value) : Except Error Settings := do
  let d := Settings.default
  let (host, port) ← readSection tree "server" serverForm fun s => do
    let host ← s.setting serverForm 0 "host" readText
    let port ← s.setting serverForm 1 "port" (readNarrow 16)
    .ok (host, port)
  let gateway ← readSection tree "gateway" gatewayForm fun s => do
    let namespaces ← s.setting gatewayForm 0 "namespaces" readTexts
    let restartEvent ← s.setting gatewayForm 1 "restart_event" readText
    let restartDelay ← s.setting gatewayForm 2 "restart_delay_ms" readNat
    let rebindAttempts ← s.setting gatewayForm 3 "rebind_attempts" (readNarrow 32)
    let drainGrace ← s.setting gatewayForm 4 "drain_grace_ms" readNat
    let maxConnections ← s.setting gatewayForm 5 "max_connections" readNat
    .ok { d with
      namespaces := namespaces.getD d.namespaces
      restartEvent := restartEvent.getD d.restartEvent
      restartDelay := (restartDelay.map Nat.toUInt64).getD d.restartDelay
      rebindAttempts := (rebindAttempts.map Nat.toUInt32).getD d.rebindAttempts
      drainGrace := (drainGrace.map Nat.toUInt64).getD d.drainGrace
      maxConnections := (maxConnections.map Nat.toUInt64).getD d.maxConnections }
  let heartbeat ← readSection tree "heartbeat" heartbeatForm fun s => do
    let interval ← s.setting heartbeatForm 0 "ping_interval_ms" readNat
    let timeout ← s.setting heartbeatForm 1 "ping_timeout_ms" readNat
    .ok (Heartbeat.mk ((interval.map Nat.toUInt64).getD d.heartbeat.interval)
      ((timeout.map Nat.toUInt64).getD d.heartbeat.timeout))
  let level ← readSection tree "logging" loggingForm fun s =>
    s.setting loggingForm 0 "level" readText
  .ok { gateway with
    host := host.getD d.host
    port := (port.map Nat.toUInt16).getD d.port
    heartbeat := heartbeat
    logLevel := level.getD d.logLevel }

end SocketGateway.Config
