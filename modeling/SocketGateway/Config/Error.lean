/-!
# What is wrong with a configuration

The heartbeat may be one that no timer can keep, a value may not be what its setting needs, or the
file may not be readable. Values know where they came from, unless they were put together from
several places. An error about a value names its key, which grows at its front on the way up
through the tree.
-/

namespace SocketGateway.Config

inductive Origin where
  | file (name : String)
  | environment
deriving DecidableEq, Repr

def Origin.name : Origin → String
  | .file name => name
  | .environment => "the environment"

/-- Why a configuration was refused. `conversion` is a value that does not turn into what is
needed; `structural` is a value of another form, which carries no origin. -/
inductive Error where
  | zeroInterval
  | deadlineOverflow
  | conversion (found expected key : String) (origin : Option Origin)
  | structural (text key : String)
  | fileSyntax
deriving DecidableEq, Repr

def Error.message : Error → String
  | .zeroInterval => "heartbeat.ping_interval_ms must be greater than zero"
  | .deadlineOverflow => "heartbeat.ping_interval_ms + heartbeat.ping_timeout_ms overflows"
  | .conversion found expected key origin =>
    "invalid type: " ++ found ++ ", expected " ++ expected ++ " for key \x60" ++ key ++ "\x60" ++
      (match origin with
        | none => ""
        | some o => " in " ++ o.name)
  | .structural text key => text ++ " for key \x60" ++ key ++ "\x60"
  | .fileSyntax => "syntax error in the configuration file"

/-- Puts a step in front of the key of an error; `joint` stands between it and a name. -/
def Error.under (step joint : String) : Error → Error
  | .conversion found expected key origin =>
    .conversion found expected (step ++ glue key ++ key) origin
  | .structural text key => .structural text (step ++ glue key ++ key)
  | e => e
where
  /-- What stands before a key: nothing before an index or at its end. -/
  glue (key : String) : String :=
    match key.toList with
    | [] => ""
    | '[' :: _ => ""
    | _ => joint

def Error.inKey (k : String) (e : Error) : Error := e.under k "."

def Error.inItem (i : Nat) (e : Error) : Error := e.under ("[" ++ toString i ++ "]") ""

example : ((Error.structural "x" "").inItem 0 |>.inKey "b" |>.inKey "a") =
    .structural "x" "a.b[0]" := by decide

end SocketGateway.Config
