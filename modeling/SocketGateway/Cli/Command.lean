import SocketGateway.Probe.Plan

/-!
# Commands

The program either serves a gateway or visits one. A visit can be described by options, each of
which has a value of its own if it is not given; every command can be asked for help instead.
-/

namespace SocketGateway.Cli

/-! ## Commands and pages -/

inductive Command where
  | server
  | client (o : Probe.Options)
deriving DecidableEq, Repr

/-- The pages of the help: of the program, and of its commands. -/
inductive Page where
  | program
  | server
  | client
  | help
deriving DecidableEq, Repr

def Page.ofCommand? : String → Option Page
  | "server" => some .server
  | "client" => some .client
  | "help" => some .help
  | _ => none

/-! ## Options -/

inductive Flag where
  | url
  | namespace
  | restart
  | restartEvent
  | linger
  | help
deriving DecidableEq, Repr

namespace Flag

def all : List Flag := [.url, .namespace, .restart, .restartEvent, .linger, .help]

def name : Flag → String
  | .url => "url"
  | .namespace => "namespace"
  | .restart => "restart"
  | .restartEvent => "restart-event"
  | .linger => "linger-ms"
  | .help => "help"

/-- What the value of an option is called; only some have one. -/
def valueName : Flag → Option String
  | .url => some "URL"
  | .namespace => some "NAMESPACE"
  | .restartEvent => some "RESTART_EVENT"
  | .linger => some "LINGER_MS"
  | .restart | .help => none

def default : Flag → String
  | .url => "ws://127.0.0.1:8080"
  | .namespace => "/"
  | .restartEvent => "restart_server"
  | .linger => "5000"
  | .restart | .help => ""

def usage (f : Flag) : String :=
  "--" ++ f.name ++ (match f.valueName with
    | some v => " <" ++ v ++ ">"
    | none => "")

end Flag

def Page.flag? (p : Page) (name : String) : Option Flag :=
  match p with
  | .client => Flag.all.find? fun f => f.name == name
  | _ => if name = Flag.name .help then some .help else none

/-! ## Misuse -/

inductive CountFault where
  | empty
  | digit
  | tooLarge
deriving DecidableEq, Repr

def CountFault.message : CountFault → String
  | .empty => "cannot parse integer from empty string"
  | .digit => "invalid digit found in string"
  | .tooLarge => "number too large to fit in target type"

inductive Misuse where
  | unknownArgument (arg : String)
  | unknownCommand (name : String)
  | missingValue (f : Flag)
  | unexpectedValue (value : String) (f : Flag)
  | repeated (f : Flag)
  | badCount (value : String) (f : Flag) (fault : CountFault)
deriving DecidableEq, Repr

def Misuse.message : Misuse → String
  | .unknownArgument arg => "unexpected argument '" ++ arg ++ "' found"
  | .unknownCommand name => "unrecognized subcommand '" ++ name ++ "'"
  | .missingValue f => "a value is required for '" ++ f.usage ++ "' but none was supplied"
  | .unexpectedValue value f =>
    "unexpected value '" ++ value ++ "' for '" ++ f.usage ++ "' found; no more were expected"
  | .repeated f => "the argument '" ++ f.usage ++ "' cannot be used multiple times"
  | .badCount value f fault =>
    "invalid value '" ++ value ++ "' for '" ++ f.usage ++ "': " ++ fault.message

end SocketGateway.Cli
