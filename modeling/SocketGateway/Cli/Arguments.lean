import SocketGateway.Cli.Command
import SocketGateway.Text.Digit

/-!
# Reading arguments

Arguments are read one after the other. The value of an option that stands in an argument of its
own is settled only when the next option comes, or at the end; what is wrong with it is therefore
said after what is wrong with an argument that nobody knows. After two hyphens alone only words may
come, and no command takes words.
-/

namespace SocketGateway.Cli

/-! ## Numbers -/

/-- Reads the digits of a number below 2^64 from the front; the first thing that is wrong counts. -/
def readDigits (n : Nat) : List Char → Except CountFault Nat
  | [] => .ok n
  | c :: cs =>
    match Text.digit? 10 c with
    | none => .error .digit
    | some d => if UInt64.size ≤ 10 * n + d then .error .tooLarge else readDigits (10 * n + d) cs

def readCount (s : String) : Except CountFault Nat :=
  match s.toList with
  | [] => .error .empty
  | ['+'] => .error .digit
  | '+' :: cs => readDigits 0 cs
  | cs => readDigits 0 cs

/-! ## Forms of arguments -/

/-- The form of an argument: an option with a long name, and perhaps a value behind an equals sign,
one with a short name, or a word. -/
inductive Form where
  | long (name : String) (value : Option String)
  | short (c : Char)
  | word
deriving DecidableEq, Repr

def formOf (arg : String) : Form :=
  match arg.toList with
  | '-' :: '-' :: cs =>
    let name := cs.takeWhile (· ≠ '=')
    .long (String.ofList name) (match cs.drop name.length with
      | _ :: value => some (String.ofList value)
      | [] => none)
  | '-' :: c :: _ => .short c
  | _ => .word

/-! ## Options -/

inductive Stop where
  | help (p : Page)
  | misuse (m : Misuse)
deriving DecidableEq, Repr

/-- The options that were given: those that are settled, and one that is not, with its value if
that has come. -/
structure Draft where
  settled : List (Flag × String)
  waiting : Option (Flag × Option String)
deriving DecidableEq, Repr

namespace Draft

def empty : Draft := ⟨[], none⟩

/-- Settles an option with its value. No option can be given twice. -/
def give (d : Draft) (f : Flag) (value : String) : Except Stop Draft :=
  if d.settled.any (·.1 == f) then .error (.misuse (.repeated f))
  else
    match f, readCount value with
    | .linger, .error fault => .error (.misuse (.badCount value f fault))
    | _, _ => .ok { d with settled := (f, value) :: d.settled }

def settle (d : Draft) : Except Stop Draft :=
  match d.waiting with
  | none => .ok d
  | some (f, none) => .error (.misuse (.missingValue f))
  | some (f, some value) => { d with waiting := none }.give f value

def takeFlag (p : Page) (d : Draft) (f : Flag) (value : Option String) : Except Stop Draft :=
  match f.valueName, value with
  | none, some v => .error (.misuse (.unexpectedValue v f))
  | some _, some v => d.settle.bind fun d => d.give f v
  | some _, none => d.settle.map fun d => { d with waiting := some (f, none) }
  | none, none =>
    d.settle.bind fun d => if f = .help then .error (.help p) else d.give f ""

def take (p : Page) (d : Draft) (arg : String) : Except Stop Draft :=
  match formOf arg with
  | .long name value =>
    match p.flag? name with
    | some f => d.takeFlag p f value
    | none => .error (.misuse (.unknownArgument ("--" ++ name)))
  | .short c =>
    if c = 'h' then d.takeFlag p .help none
    else .error (.misuse (.unknownArgument (String.ofList ['-', c])))
  | .word =>
    match d.waiting with
    | some (f, none) => .ok { d with waiting := some (f, some arg) }
    | _ => .error (.misuse (.unknownArgument arg))

def takeAll (p : Page) : Draft → List String → Except Stop Draft
  | d, [] => d.settle
  | d, "--" :: args =>
    match args with
    | [] => d.settle
    | arg :: _ => .error (.misuse (.unknownArgument arg))
  | d, arg :: args =>
    match d.take p arg with
    | .ok d => takeAll p d args
    | .error stop => .error stop

def value (d : Draft) (f : Flag) : String := (d.settled.lookup f).getD f.default

def options (d : Draft) : Probe.Options where
  url := d.value .url
  ns := d.value .namespace
  emit := if d.settled.any (·.1 == .restart) then some (d.value .restartEvent) else none
  linger := ((readCount (d.value .linger)).toOption).getD 0

end Draft

/-! ## Everything together -/

/-- What all arguments say: a command, a page of the help, nothing, or a misuse. -/
inductive Request where
  | run (c : Command)
  | help (p : Page)
  | nothing
  | misuse (m : Misuse)
deriving DecidableEq, Repr

def Request.ofStop : Stop → Request
  | .help p => .help p
  | .misuse m => .misuse m

/-- The help on a command, by the words behind `help`; only the program has commands. -/
def helpOn (p : Page) : List String → Request
  | [] => .help p
  | name :: names =>
    match p, Page.ofCommand? name with
    | .program, some p => helpOn p names
    | _, _ => .misuse (.unknownCommand name)

def Request.read : List String → Request
  | [] => .nothing
  | "server" :: args =>
    match Draft.empty.takeAll .server args with
    | .ok _ => .run .server
    | .error stop => .ofStop stop
  | "client" :: args =>
    match Draft.empty.takeAll .client args with
    | .ok d => .run (.client d.options)
    | .error stop => .ofStop stop
  | "help" :: args => helpOn .program args
  | "--" :: args =>
    match args with
    | [] => .nothing
    | arg :: _ =>
      if (Page.ofCommand? arg).isSome then .misuse (.unknownArgument arg)
      else .misuse (.unknownCommand arg)
  | arg :: _ =>
    match formOf arg, Draft.empty.take .program arg with
    | .word, _ => .misuse (.unknownCommand arg)
    | _, .error stop => .ofStop stop
    | _, .ok _ => .nothing

example : Request.read ["client", "--url", "-h"] = .misuse (.missingValue .url) ∧
    Request.read ["client", "--linger-ms", "x", "--no"] = .misuse (.unknownArgument "--no") ∧
    Request.read ["help", "client"] = .help .client := by decide +kernel

end SocketGateway.Cli
