import SocketGateway.Config.Tree
import SocketGateway.Decimal.Reader
import SocketGateway.Text.Split

/-!
# Settings in the environment

A variable whose name starts with `NSGATE_`, in any case, is a setting: the rest of its name in
lower case is a key, where two underscores stand for a point. Its text is tried as a truth value,
an integer, a double, and for the list of namespaces as a list with commas; else it is text.
-/

namespace SocketGateway.Config

/-- The variables of a process, by name. -/
abbrev Environment := List (String × String)

namespace Environment

def namePrefix : List Char := "nsgate_".toList

def after? (front cs : List Char) : Option (List Char) :=
  if front.isPrefixOf cs then some (cs.drop front.length) else none

/-- Two underscores become a point, from the front on. -/
def points : List Char → List Char
  | '_' :: '_' :: cs => '.' :: points cs
  | c :: cs => c :: points cs
  | [] => []

def keyOf? (name : String) : Option String :=
  (after? namePrefix (Decimal.lower name.toList)).map fun cs => String.ofList (points cs)

def listKey : String := "gateway.namespaces"

def nodeOf (key text : String) : Node :=
  match Decimal.lower text.toList with
  | ['t', 'r', 'u', 'e'] => .bool true
  | ['f', 'a', 'l', 's', 'e'] => .bool false
  | _ =>
    match Decimal.int64Of? text with
    | some i => .int i
    | none =>
      match Decimal.doubleOf? text with
      | some x => .float x
      | none =>
        if key = listKey then
          .array ((Text.split ',' text).map fun s => (some .environment, .string s))
        else .string text

def entries (env : Environment) : List (String × Value) :=
  env.filterMap fun (name, text) =>
    (keyOf? name).map fun key => (key, some .environment, nodeOf key text)

def lookup? (env : Environment) (name : String) : Option String := Table.lookup name env

end Environment

end SocketGateway.Config
