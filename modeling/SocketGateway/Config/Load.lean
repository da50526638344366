import SocketGateway.Config.Conversion
import SocketGateway.Config.DotEnv
import SocketGateway.Config.Toml.Reader
import SocketGateway.Text.Utf8

/-!
# Loading settings

The settings of a gateway come from three places: what a configuration file says, what the
environment says over it, and the defaults for what neither says. Before they are taken they are
checked.
-/

namespace SocketGateway.Config

/-! ## The configuration file -/

def fileName : String := "config/default.toml"

mutual

def nodeOfToml : Toml.Value → Node
  | .bool b => .bool b
  | .int i => .int i
  | .float x => .float x
  | .text s => .string s
  | .array items => .array (itemsOfToml items)
  | .tables elements => .array (elementsOfToml elements)
  | .table _ members => .table (membersOfToml members)

def itemsOfToml : List Toml.Value → List Value
  | [] => []
  | v :: vs => (some (.file fileName), nodeOfToml v) :: itemsOfToml vs

def elementsOfToml : List (Toml.Opening × List (String × Toml.Value)) → List Value
  | [] => []
  | (_, members) :: es =>
    (some (.file fileName), .table (membersOfToml members)) :: elementsOfToml es

def membersOfToml : List (String × Toml.Value) → List (String × Value)
  | [] => []
  | (k, v) :: ms => (k, some (.file fileName), nodeOfToml v) :: membersOfToml ms

end

/-- The text of a file's bytes. A mark of byte order at its start is passed over. -/
def fileText (bytes : List UInt8) : String :=
  Text.Utf8.decodeLossy (match bytes with
    | 0xEF :: 0xBB :: 0xBF :: bytes => bytes
    | bytes => bytes)

def fileEntries (bytes : List UInt8) : Except Error (List (String × Value)) :=
  match Toml.parse? (fileText bytes) with
  | some members => .ok (membersOfToml members)
  | none => .error .fileSyntax

/-! ## Everything together -/

def load (file : Option (List UInt8)) (env : Environment) : Except Error Settings := do
  let said ← match file with
    | some bytes => fileEntries bytes
    | none => .ok []
  let tree := (Value.empty.setAll said).setAll env.entries
  let settings ← Settings.ofTree tree
  settings.heartbeat.validate
  .ok settings

end SocketGateway.Config
