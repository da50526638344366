import SocketGateway.Log.Record
import SocketGateway.Text.Blank
import SocketGateway.Text.Digit
import SocketGateway.Text.Split

/-!
# Which records are shown

A filter is a list of directives, each of which limits the records of some targets to a level. Of
the directives that are about a target the most specific one decides; without any nothing is
shown. A filter is written as directives with commas between them: a level alone is about every
target, a target alone shows everything, and `target=level` is about the targets that start with
that text. A directive with brackets is about spans and says nothing about records.
-/

namespace SocketGateway.Log

/-! ## The type -/

/-- A directive: the start of the targets that it is about, or all of them, and the least weighty
level that is shown, if any is. -/
structure Directive where
  target : Option String
  limit : Option Level
deriving DecidableEq, Repr

/-- A filter. -/
structure Filter where
  directives : List Directive
deriving DecidableEq, Repr

namespace Directive

def isAbout (target : String) (d : Directive) : Bool :=
  d.target.all fun t => t.toList.isPrefixOf target.toList

def weight (d : Directive) : Nat := (d.target.map fun t => t.length + 1).getD 0

def lets (l : Level) (d : Directive) : Bool := d.limit.any fun limit => l.rank ≤ limit.rank

end Directive

/-! ## Showing -/

namespace Filter

def sharper (best : Option Directive) (d : Directive) : Option Directive :=
  match best with
  | some b => if d.weight < b.weight then some b else some d
  | none => some d

/-- The directive that decides about a target: the most specific one, of equals the last. -/
def deciding? (f : Filter) (target : String) : Option Directive :=
  (f.directives.filter (·.isAbout target)).foldl sharper none

def enables (f : Filter) (target : String) (l : Level) : Bool :=
  (f.deciding? target).any (·.lets l)

/-- The filter that shows a level and all that are weightier. -/
def ofLevel (l : Level) : Filter := ⟨[⟨none, some l⟩]⟩

end Filter

/-! ## Reading levels -/

def lowered (s : String) : String := String.ofList (s.toList.map Char.toLower)

def limitOfNumber? : Nat → Option (Option Level)
  | 0 => some none
  | n + 1 => (Level.all[n]?).map some

def limit? (cs : List Char) : Option (Option Level) :=
  let digits := match cs with
    | '+' :: rest => rest
    | _ => cs
  if !digits.isEmpty && digits.all (Text.isDigit 10) then limitOfNumber? (Text.number 10 digits)
  else
    let name := lowered (String.ofList cs)
    if name = "off" then some none
    else (Level.all.find? fun l => lowered l.name == name).map some

/-! ## Reading directives -/

/-- Whether a directive may start with a character; beyond ASCII all but blanks may. -/
def startsTarget (c : Char) : Bool :=
  c == '-' || c == ':' || c == '_' || c.isAlphanum || (128 ≤ c.toNat && !Text.isBlank c)

def limitAfter? (cs : List Char) : Option (Option Level) :=
  if cs.isEmpty then some (some .trace) else limit? cs

/-- What follows the opening bracket of a directive, past the closing one. -/
def afterBracket? (cs : List Char) : Option (List Char) :=
  let rest := cs.dropWhile fun c => c != ']' && c != '\x7b'
  match rest with
  | ']' :: rest => some rest
  | _ :: rest =>
    match rest.dropWhile (· != '\x7d') with
    | _ :: ']' :: rest => some rest
    | _ => none
  | [] => none

def readSpan? (cs : List Char) : Option (Option Directive) :=
  match afterBracket? cs with
  | some [] => some none
  | some ('=' :: level) => (limitAfter? level).map fun _ => none
  | _ => none

/-- Reads a directive that has no blanks around it; one about spans gives none. -/
def readTight? (cs : List Char) : Option (Option Directive) :=
  let name := cs.takeWhile fun c => c != '=' && c != '['
  match cs.drop name.length with
  | [] =>
    match limit? cs with
    | some limit => some (some ⟨none, limit⟩)
    | none => some (some ⟨some (String.ofList cs), some .trace⟩)
  | '=' :: level =>
    (limitAfter? level).map fun limit => some ⟨some (String.ofList name), limit⟩
  | _ :: body => readSpan? body

/-- Reads a directive. With blanks around it only one that is a single name is well formed, and
then it is about a target that nobody has. -/
def readDirective? (cs : List Char) : Option (Option Directive) :=
  let body := Text.strip Text.isBlank cs
  match body with
  | [] => none
  | c :: _ =>
    if c != '[' && !startsTarget c then none
    else if body.length = cs.length then readTight? cs
    else if body.contains '=' then none
    else if body.contains '[' then readTight? body
    else some (some ⟨some (String.ofList cs), some .trace⟩)

namespace Filter

/-- Reads a filter; `none` if one of its directives is malformed. A filter without any directive
shows errors. -/
def parse? (s : String) : Option Filter :=
  match (Text.split ',' s).filter (· ≠ "") with
  | [] => some (ofLevel .error)
  | parts => (parts.mapM fun p => readDirective? p.toList).map fun ds => ⟨ds.filterMap id⟩

def levelOfSetting (s : String) : Level :=
  match lowered s with
  | "error" => .error
  | "warn" | "warning" => .warn
  | "debug" => .debug
  | "trace" => .trace
  | _ => .info

/-- The filter in force: what the environment says, if that is a filter, before the setting. -/
def choose (env : Option String) (setting : String) : Filter :=
  (env.bind parse?).getD (ofLevel (levelOfSetting setting))

example : (choose (some "info,a=off") "trace").enables "a" .error = false ∧
    (choose (some "info,a=off") "trace").enables "b" .info = true ∧
    (choose (some "==") "warning").enables "b" .warn = true := by decide +kernel

end Filter

end SocketGateway.Log
