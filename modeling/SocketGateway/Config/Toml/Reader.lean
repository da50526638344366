import SocketGateway.Config.Toml.Scalar

/-!
# Reading a configuration file

A file is lines: blank ones, headers, and keys with values. Strings come in four forms, lists and
inline tables may run over lines, hold comments and end in a comma; they nest at most 80 deep. A
text that breaks a rule anywhere is refused as a whole.
-/

namespace SocketGateway.Config.Toml

/-! ## Blanks, comments and line ends -/

def isBlank (c : Char) : Bool := c == ' ' || c == '\t'

def skipBlanks (cs : List Char) : List Char := cs.dropWhile isBlank

/-- A character that may stand in a comment or a literal string: no control character but tab. -/
def isPrintable (c : Char) : Bool := c == '\t' || (0x20 ≤ c.toNat && c != '\x7f')

def skipComment : List Char → List Char
  | '#' :: cs => cs.dropWhile isPrintable
  | cs => cs

def lineEnd? : List Char → Option (List Char)
  | '\n' :: cs => some cs
  | '\r' :: '\n' :: cs => some cs
  | _ => none

def skipLines : Nat → List Char → List Char
  | 0, cs => cs
  | fuel + 1, cs =>
    let cs := skipComment (skipBlanks cs)
    match lineEnd? cs with
    | some rest => skipLines fuel rest
    | none => cs

/-- Takes the rest of a line: blanks, a comment, and its end or the end of the text. -/
def restOfLine? (cs : List Char) : Option (List Char) :=
  match skipComment (skipBlanks cs) with
  | [] => some []
  | cs => lineEnd? cs

/-! ## Strings -/

def numbered? (n : Nat) (cs : List Char) : Option (Char × List Char) :=
  let ds := cs.take n
  let code := Text.number 16 ds
  if ds.length = n ∧ ds.all (Text.isDigit 16) ∧ code.isValidChar then
    some (Char.ofNat code, cs.drop n)
  else none

def escape? : List Char → Option (Char × List Char)
  | 'b' :: cs => some ('\x08', cs)
  | 't' :: cs => some ('\t', cs)
  | 'n' :: cs => some ('\n', cs)
  | 'f' :: cs => some ('\x0c', cs)
  | 'r' :: cs => some ('\r', cs)
  | 'e' :: cs => some ('\x1b', cs)
  | '"' :: cs => some ('"', cs)
  | '\\' :: cs => some ('\\', cs)
  | 'x' :: cs => numbered? 2 cs
  | 'u' :: cs => numbered? 4 cs
  | 'U' :: cs => numbered? 8 cs
  | _ => none

abbrev Taken := Option (List Char × List Char)

/-- Takes a basic string after its quote; `acc` holds its characters, latest first. -/
def basic? : Nat → List Char → List Char → Taken
  | 0, _, _ => none
  | fuel + 1, acc, cs =>
    match cs with
    | '"' :: rest => some (acc.reverse, rest)
    | '\\' :: rest =>
      match escape? rest with
      | some (c, rest) => basic? fuel (c :: acc) rest
      | none => none
    | c :: rest => if isPrintable c then basic? fuel (c :: acc) rest else none
    | [] => none

def literal? (cs : List Char) : Taken :=
  let body := cs.takeWhile fun c => isPrintable c && c != '\''
  match cs.drop body.length with
  | '\'' :: rest => some (body, rest)
  | _ => none

/-- Goes past the blanks and line ends that a backslash at the end of a line takes away. There
must be a line end among them. -/
def skipJoint? (cs : List Char) : Option (List Char) :=
  (lineEnd? (skipBlanks cs)).map fun rest =>
    rest.dropWhile fun c => isBlank c || c == '\n' || c == '\r'

/-- Takes the quotes that end a string over lines: three, and up to two before them belong to
it. -/
def closing? (quote : Char) (cs : List Char) : Option (Nat × List Char) :=
  let n := (cs.takeWhile (· == quote)).length
  if 3 ≤ n ∧ n ≤ 5 then some (n - 3, cs.drop n) else none

/-- Takes a string over lines after its quotes; escapes count in the basic form only. -/
def lines? (quote : Char) : Nat → List Char → List Char → Taken
  | 0, _, _ => none
  | fuel + 1, acc, cs =>
    match cs with
    | [] => none
    | c :: rest =>
      if c = quote then
        match closing? quote cs with
        | some (extra, rest) => some ((List.replicate extra quote ++ acc).reverse, rest)
        | none =>
          if (cs.takeWhile (· == quote)).length < 3 then lines? quote fuel (c :: acc) rest else none
      else if c = '\\' ∧ quote = '"' then
        match skipJoint? rest with
        | some rest => lines? quote fuel acc rest
        | none =>
          match escape? rest with
          | some (e, rest) => lines? quote fuel (e :: acc) rest
          | none => none
      else
        match lineEnd? cs with
        | some rest => lines? quote fuel ('\n' :: acc) rest
        | none => if isPrintable c then lines? quote fuel (c :: acc) rest else none

/-- Takes a string over lines; a line end right after its quotes does not count. -/
def multiline? (quote : Char) (size : Nat) (cs : List Char) : Taken :=
  lines? quote size [] ((lineEnd? cs).getD cs)

def string? (size : Nat) (cs : List Char) : Taken :=
  match cs with
  | '"' :: '"' :: '"' :: rest => multiline? '"' size rest
  | '"' :: rest => basic? size [] rest
  | '\'' :: '\'' :: '\'' :: rest => multiline? '\'' size rest
  | '\'' :: rest => literal? rest
  | _ => none

/-! ## Keys -/

def isKeyChar (c : Char) : Bool := c.isAlphanum || c == '_' || c == '-'

def keyPart? (size : Nat) (cs : List Char) : Option (String × List Char) :=
  match cs with
  | '"' :: rest => (basic? size [] rest).map fun (k, rest) => (String.ofList k, rest)
  | '\'' :: rest => (literal? rest).map fun (k, rest) => (String.ofList k, rest)
  | _ =>
    let k := cs.takeWhile isKeyChar
    if k.isEmpty then none else some (String.ofList k, cs.drop k.length)

/-- Takes a key: parts with points between them, and blanks around those. -/
def key? (size : Nat) : Nat → List String → List Char → Option (List String × List Char)
  | 0, _, _ => none
  | fuel + 1, acc, cs =>
    match keyPart? size (skipBlanks cs) with
    | none => none
    | some (k, rest) =>
      match skipBlanks rest with
      | '.' :: rest => key? size fuel (k :: acc) rest
      | rest => some ((k :: acc).reverse, rest)

/-! ## Values -/

def items? (item : List Char → Option (Value × List Char)) (size : Nat) :
    Nat → List Value → List Char → Option (List Value × List Char)
  | 0, _, _ => none
  | fuel + 1, acc, cs =>
    match skipLines size cs with
    | ']' :: rest => some (acc.reverse, rest)
    | cs =>
      match item cs with
      | none => none
      | some (v, rest) =>
        match skipLines size rest with
        | ',' :: rest => items? item size fuel (v :: acc) rest
        | ']' :: rest => some ((v :: acc).reverse, rest)
        | _ => none

def pair? (item : List Char → Option (Value × List Char)) (size : Nat) (cs : List Char) :
    Option (List String × Value × List Char) :=
  match key? size size [] cs with
  | some (k, '=' :: rest) => (item (skipBlanks rest)).map fun (v, rest) => (k, v, rest)
  | _ => none

def addPair? (t : Members) (k : List String) (v : Value) : Option Members :=
  match k.getLast? with
  | some last => addAt k.dropLast last v t
  | none => none

def members? (item : List Char → Option (Value × List Char)) (size : Nat) :
    Nat → Members → List Char → Option (Members × List Char)
  | 0, _, _ => none
  | fuel + 1, t, cs =>
    match skipLines size cs with
    | '}' :: rest => some (t, rest)
    | cs =>
      match pair? item size cs with
      | none => none
      | some (k, v, rest) =>
        match addPair? t k v with
        | none => none
        | some t =>
          match skipLines size rest with
          | ',' :: rest => members? item size fuel t rest
          | '}' :: rest => some (t, rest)
          | _ => none

def maxDepth : Nat := 80

/-- Reads a value in which lists and inline tables nest at most `depth` deep. -/
def value? (size : Nat) : Nat → List Char → Option (Value × List Char)
  | depth, cs =>
    match cs with
    | '[' :: rest =>
      match depth with
      | 0 => none
      | depth + 1 =>
        (items? (value? size depth) size size [] rest).map fun (vs, rest) => (.array vs, rest)
    | '{' :: rest =>
      match depth with
      | 0 => none
      | depth + 1 =>
        (members? (value? size depth) size size Members.empty rest).map fun (t, rest) =>
          (.table .inlined t.2, rest)
    | '"' :: _ | '\'' :: _ =>
      (string? size cs).map fun (s, rest) => (.text (String.ofList s), rest)
    | cs =>
      match takeScalar cs with
      | (front, rest) => (scalar? front).map fun v => (v, rest)

/-! ## Lines -/

def header? (size : Nat) (d : Document) (cs : List Char) : Option (Document × List Char) :=
  let (isList, cs) := match cs with
    | '[' :: cs => (true, cs)
    | cs => (false, cs)
  match key? size size [] cs with
  | some (path, ']' :: rest) =>
    match isList, rest with
    | false, rest => (d.openHeader false path).map (·, rest)
    | true, ']' :: rest => (d.openHeader true path).map (·, rest)
    | true, _ => none
  | _ => none

def line? (size : Nat) (d : Document) (cs : List Char) : Option (Document × List Char) :=
  match cs with
  | '[' :: rest => header? size d rest
  | cs =>
    match pair? (value? size maxDepth) size cs with
    | none => none
    | some (k, v, rest) =>
      match k.getLast? with
      | some last => (d.add k.dropLast last v).map (·, rest)
      | none => none

def lineByLine? (size : Nat) : Nat → Document → List Char → Option Document
  | 0, _, _ => none
  | fuel + 1, d, cs =>
    match skipLines size cs with
    | [] => some d
    | cs =>
      match line? size d cs with
      | none => none
      | some (d, rest) =>
        match restOfLine? rest with
        | none => none
        | some rest => lineByLine? size fuel d rest

/-- The mark that may stand at the front of a text to tell its encoding. -/
def byteOrderMark : Char := '\uFEFF'

def parse? (text : String) : Option (List (String × Value)) :=
  let cs := match text.toList with
    | c :: cs => if c = byteOrderMark then cs else c :: cs
    | [] => []
  let size := cs.length + 1
  (lineByLine? size size Document.empty cs).map (·.root.2)

end SocketGateway.Config.Toml
