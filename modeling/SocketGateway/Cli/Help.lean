import SocketGateway.Cli.Command

/-!
# Help

The pages of the help, line by line. Options stand in two columns, of which the first is as wide as
its widest entry.
-/

namespace SocketGateway.Cli

def programName : String := "nsgate"

/-! ## Parts of a page -/

/-- Entries in two columns, with two blanks around the first one. -/
def columns (rows : List (String × String)) : List String :=
  let width := (rows.map fun r => r.1.length).foldl max 0
  rows.map fun r =>
    "  " ++ r.1 ++ String.ofList (List.replicate (width - r.1.length + 2) ' ') ++ r.2

def Flag.purpose : Flag → String
  | .url => "Gateway URL to connect to"
  | .namespace => "Namespace to join"
  | .restart => "Emit the restart event after the handshake"
  | .restartEvent => "Event name sent by \x60--restart\x60"
  | .linger => "Close after this long if the server has not"
  | .help => "Print help"

def Flag.row (long : Bool) (f : Flag) : String × String :=
  let lead := if f = .help then "-h, " else if long then "    " else ""
  (lead ++ f.usage,
    f.purpose ++ (match f.valueName with
      | some _ => " [default: " ++ f.default ++ "]"
      | none => ""))

def Page.about : Page → String
  | .program => ""
  | .server => "Start the gateway"
  | .client => "Connect to a namespace and log what the gateway sends"
  | .help => "Print this message or the help of the given subcommand(s)"

def commands : List (String × Page) := [("server", .server), ("client", .client), ("help", .help)]

/-! ## Pages -/

def Page.usage : Page → String
  | .program => programName ++ " <COMMAND>"
  | .server => programName ++ " server"
  | .client => programName ++ " client [OPTIONS]"
  | .help => programName ++ " help [COMMAND]..."

def Page.lines (p : Page) : List String :=
  let usage := "Usage: " ++ p.usage
  match p with
  | .program =>
    [usage, "", "Commands:"] ++ columns (commands.map fun c => (c.1, c.2.about)) ++
      ["", "Options:"] ++ columns [Flag.row false .help]
  | .server => [p.about, "", usage, "", "Options:"] ++ columns [Flag.row false .help]
  | .client => [p.about, "", usage, "", "Options:"] ++ columns (Flag.all.map (Flag.row true))
  | .help =>
    [p.about, "", usage, "", "Arguments:"] ++
      columns [("[COMMAND]...", "Print help for the subcommand(s)")]

end SocketGateway.Cli
