import SocketGateway.Config.Environment
import SocketGateway.Text.Blank
import SocketGateway.Text.Letter

/-!
# Variables from a file

A file of lines `NAME=value` adds variables to an environment. Quotes may run over several lines,
`#` after a blank starts a comment, and `$NAME` stands for the text of a variable. The file is read
to entries first, whose values still name the variables; their texts are filled in when an entry is
added, so that a value may name variables of the environment and those of entries above it. A
variable that the environment has already keeps its text. The first line that cannot be read ends
the reading; what stood before it is kept.
-/

namespace SocketGateway.Config.DotEnv

open SocketGateway.Text (isAlphanumeric isBlank)

/-! ## Lines -/

/-- Where in a line a character stands. -/
inductive Place where
  | plain
  | afterBlank
  | escaped
  | strong
  | strongEscaped
  | weak
  | weakEscaped
deriving DecidableEq, Repr

/-- The place after a character, where it opens no comment. -/
def Place.next (p : Place) (c : Char) : Place :=
  match p with
  | .escaped => .plain
  | .strong => if c == '\\' then .strongEscaped else if c == '\'' then .plain else .strong
  | .strongEscaped => .strong
  | .weak => if c == '\\' then .weakEscaped else if c == '"' then .plain else .weak
  | .weakEscaped => .weak
  | .plain | .afterBlank =>
    if c == '\\' then .escaped
    else if c == '"' then .weak
    else if c == '\'' then .strong
    else if p == .plain && isBlank c && c != '\n' && c != '\r' then .afterBlank
    else .plain

/-- Walks through a line, up to a comment. Gives what was passed, latest first, and the place at
the end, which is `none` at a comment. -/
def walk : Place → List Char → List Char → List Char × Option Place
  | p, passed, [] => (passed, some p)
  | p, passed, c :: cs =>
    if p == .afterBlank && c == '#' then (passed, none) else walk (p.next c) (c :: passed) cs

def cut : List Char → List Char → List (List Char)
  | [], [] => []
  | line, [] => [line.reverse]
  | line, '\n' :: cs => ('\n' :: line).reverse :: cut [] cs
  | line, c :: cs => cut (c :: line) cs

def withoutEnd : List Char → List Char
  | '\n' :: '\r' :: cs => cs
  | '\n' :: cs => cs
  | cs => cs

/-- Puts together the lines that belong to one definition; `sofar` is reversed. An entry `none` is
a text that ends inside a definition. -/
def assemble : Place → List Char → List (List Char) → List (Option (List Char))
  | p, _, [] => if p = .plain then [] else [none]
  | p, sofar, line :: lines =>
    if ((sofar.reverse ++ line).dropWhile isBlank).head? = some '#' then
      assemble .plain [] lines
    else
      match walk p sofar line with
      | (passed, none) => some passed.reverse :: assemble .plain [] lines
      | (passed, some .plain) => some (withoutEnd passed).reverse :: assemble .plain [] lines
      | (passed, some p) => assemble p passed lines

/-! ## Values -/

/-- What a value is being read as. Names of variables are reversed; `quoted` says that double
quotes are open. -/
inductive Mode where
  | text (quoted : Bool)
  | escaped (quoted : Bool)
  | strong
  | name (quoted : Bool) (letters : List Char)
  | braced (quoted : Bool) (letters : List Char)
  | over

def unescape? (c : Char) : Option Char :=
  if c == 'n' then some '\n'
  else if ['\\', '\'', '"', '$', ' '].contains c then some c
  else none

/-- A part of a value: a character, or the mention of a variable whose text stands there. -/
inductive Part where
  | char (c : Char)
  | mention (name : String)
deriving DecidableEq, Repr

/-- The mention of a variable whose name was read, latest letter first. -/
def Part.named (letters : List Char) : Part := .mention (String.ofList letters.reverse)

/-- Reads a value; `out` is reversed. A name that a dollar sign starts ends at the first character
that is no letter or digit, which is taken as it is, even a quote. -/
def readValue : Mode → List Part → List Char → Option (List Part)
  | .text false, out, [] | .escaped false, out, [] | .over, out, [] => some out.reverse
  | .name false letters, out, [] => some (.named letters :: out).reverse
  | _, _, [] => none
  | .over, out, c :: cs =>
    if c == ' ' || c == '\t' then readValue .over out cs
    else if c == '#' then some out.reverse
    else none
  | .escaped quoted, out, c :: cs =>
    match unescape? c with
    | some c => readValue (.text quoted) (.char c :: out) cs
    | none => none
  | .strong, out, c :: cs =>
    if c == '\'' then readValue (.text false) out cs else readValue .strong (.char c :: out) cs
  | .name quoted letters, out, c :: cs =>
    if isAlphanumeric c then readValue (.name quoted (c :: letters)) out cs
    else if c == '\x7b' && letters.isEmpty then readValue (.braced quoted []) out cs
    else if c == '$' then readValue (.name quoted []) (.named letters :: out) cs
    else readValue (.text quoted) (.char c :: .named letters :: out) cs
  | .braced quoted letters, out, c :: cs =>
    if c == '\x7d' then readValue (.text quoted) (.named letters :: out) cs
    else readValue (.braced quoted (c :: letters)) out cs
  | .text quoted, out, c :: cs =>
    if c == '$' then readValue (.name quoted []) out cs
    else if c == '\\' then readValue (.escaped quoted) out cs
    else if c == '"' then readValue (.text (!quoted)) out cs
    else if quoted then readValue (.text true) (.char c :: out) cs
    else if c == '\'' then readValue .strong out cs
    else if c == ' ' || c == '\t' then readValue .over out cs
    else readValue (.text false) (.char c :: out) cs

/-! ## Entries -/

/-- An entry: the name of a variable, and what its text is put together from. -/
structure Entry where
  name : String
  value : List Part
deriving DecidableEq, Repr

/-- What a line says. -/
inductive Line where
  | nothing
  | definition (e : Entry)
  | faulty
deriving DecidableEq, Repr

def readName? : List Char → Option (List Char × List Char)
  | [] => none
  | c :: cs =>
    if c.isAlpha || c == '_' then
      some ((c :: cs).span fun c => c.isAlphanum || c == '_' || c == '.')
    else none

def readRest (name : List Char) (cs : List Char) : Line :=
  match cs.dropWhile isBlank with
  | '=' :: cs =>
    let cs := cs.dropWhile isBlank
    let value? := if cs.head? = some '#' then some [] else readValue (.text false) [] cs
    match value? with
    | some value => .definition ⟨String.ofList name, value⟩
    | none => .faulty
  | _ => .faulty

/-- Reads a line. The word `export` may stand before a name. -/
def readLine (line : List Char) : Line :=
  let cs := Text.strip isBlank line
  if cs.isEmpty || cs.head? = some '#' then .nothing
  else
    match readName? cs with
    | none => .faulty
    | some (name, cs) =>
      let cs := cs.dropWhile isBlank
      if name = "export".toList ∧ cs.head? ≠ some '=' then
        match readName? cs with
        | none => .faulty
        | some (name, cs) => readRest name cs
      else readRest name cs

/-- The entries of lines, up to the first that cannot be read. -/
def readLines : List (Option (List Char)) → List Entry
  | [] => []
  | none :: _ => []
  | some line :: lines =>
    match readLine line with
    | .nothing => readLines lines
    | .faulty => []
    | .definition e => e :: readLines lines

/-- The entries of a file. A mark of byte order at its start is passed over. -/
def read (text : String) : List Entry :=
  let cs := match text.toList with
    | '\uFEFF' :: cs => cs
    | cs => cs
  readLines (assemble .plain [] (cut [] cs))

/-! ## Texts -/

/-- The text that a part stands for; a variable that is not there is empty. -/
def Part.text (env : Environment) : Part → List Char
  | .char c => [c]
  | .mention name => ((env.lookup? name).getD "").toList

def fill (env : Environment) (value : List Part) : String :=
  String.ofList (value.flatMap (·.text env))

/-- Adds the variable of an entry to an environment, unless it has one of that name. -/
def add (env : Environment) (e : Entry) : Environment :=
  if (env.lookup? e.name).isSome then env else env ++ [(e.name, fill env e.value)]

def extend (env : Environment) (text : String) : Environment := (read text).foldl add env

example : extend [("A", "1")] "A=2\nexport B='x y' # z\nC=\"$A-${B}\"\nno definition\nD=4" =
    [("A", "1"), ("B", "x y"), ("C", "1-x y")] := by decide +kernel

end SocketGateway.Config.DotEnv
