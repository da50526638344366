import SocketGateway.Json.Fault
import SocketGateway.Text.Digit

/-!
# Reading JSON

A reader takes characters from the front of a text and gives what it read with the rest, or the
fault it met. Values nest at most 127 deep. Numbers follow two rules of their own: an integer that
leaves the range of 64 bits becomes a double, and a double is its first digits (as many as 64 bits
hold) times or divided by a power of ten, in double arithmetic.
-/

namespace SocketGateway.Json

open SocketGateway.Decimal (Binary64)

/-- What a reader gives: what it read and the rest, or a fault. -/
abbrev Reading (α : Type) := Except Fault (α × List Char)

/-- A fault at the front of `rest` that covers `width` bytes of it. -/
def fail {α : Type} (cause : Cause) (rest : List Char) (width : Nat) : Except Fault α :=
  .error ⟨cause, rest, width⟩

/-! ## Blanks and words -/

/-- The four blanks of JSON. -/
def isSpace (c : Char) : Bool := c == ' ' || c == '\n' || c == '\t' || c == '\r'

def skipSpace (cs : List Char) : List Char := cs.dropWhile isSpace

def readWord (v : α) : List Char → List Char → Except Fault (α × List Char)
  | [], cs => .ok (v, cs)
  | _ :: _, [] => fail .endInValue [] 0
  | w :: ws, c :: cs => if c = w then readWord v ws cs else fail .expectedIdent (c :: cs) 1

/-! ## Numbers -/

def digitLimit : Nat := UInt64.size

def digit? (c : Char) : Option Nat := Text.digit? 10 c

/-- Takes digits onto `n` as long as the number stays below the limit, and counts them. -/
def takeDigits : List Char → Nat → Nat → Nat × Nat × List Char
  | [], n, count => (n, count, [])
  | c :: cs, n, count =>
    match digit? c with
    | some d => if n * 10 + d < digitLimit then takeDigits cs (n * 10 + d) (count + 1)
                else (n, count, c :: cs)
    | none => (n, count, c :: cs)

def skipDigits : List Char → Nat → Nat × List Char
  | [], count => (count, [])
  | c :: cs, count =>
    match digit? c with
    | some _ => skipDigits cs (count + 1)
    | none => (count, c :: cs)

/-- `n * 10 ^ exponent` in double arithmetic. Powers beyond the largest double are applied in
parts; an infinite result is none. -/
def scaleByTen : Nat → Binary64 → Int → Option Binary64
  | 0, x, _ => some x
  | fuel + 1, x, e =>
    if e.natAbs ≤ 308 then
      let power := Binary64.ofDecimal false 1 e.natAbs
      if 0 ≤ e then
        match x.mul power with
        | .infinite _ => none
        | y => some y
      else some (x.div power)
    else if x.isZero then some x
    else if 0 ≤ e then none
    else scaleByTen fuel (x.div (Binary64.ofDecimal false 1 308)) (e + 308)

/-- The double with the given digits and power of ten; the text goes on with `rest`. -/
def finishFloat (neg : Bool) (n : Nat) (e : Int) (rest : List Char) : Reading Number :=
  match scaleByTen 8 (Binary64.ofNat n) e with
  | some x => .ok (.float (if neg then x.negate else x), rest)
  | none => fail .numberOutOfRange rest 0

def exponentLimit : Nat := 0x80000000

/-- Takes the digits of an exponent onto `x`; none where they pass the limit, with the text from
the digit that does. -/
def takeExponent : List Char → Nat → Option Nat × List Char
  | [], x => (some x, [])
  | c :: cs, x =>
    match digit? c with
    | some d => if x * 10 + d < exponentLimit then takeExponent cs (x * 10 + d)
                else (none, c :: cs)
    | none => (some x, c :: cs)

/-- Reads what follows `e`: a sign, which may be absent, and digits. -/
def readExponent (neg : Bool) (n : Nat) (e : Int) (cs : List Char) : Reading Number :=
  let (down, cs) := match cs with
    | '+' :: cs => (false, cs)
    | '-' :: cs => (true, cs)
    | cs => (false, cs)
  match cs with
  | [] => fail .endInValue [] 0
  | c :: _ =>
    match digit? c with
    | none => fail .invalidNumber cs 1
    | some _ =>
      match takeExponent cs 0 with
      | (some x, rest) => finishFloat neg n (if down then e - x else e + x) rest
      | (none, rest) =>
        if n ≠ 0 ∧ !down then fail .numberOutOfRange rest 1
        else .ok (.float (Binary64.zero neg), (skipDigits rest 0).2)

/-- Reads what may follow the digits after a point, or the digits before one that were too many. -/
def readTail (neg : Bool) (n : Nat) (e : Int) : List Char → Reading Number
  | 'e' :: cs | 'E' :: cs => readExponent neg n e cs
  | cs => finishFloat neg n e cs

/-- Reads what follows the point. Digits past the limit count for nothing. -/
def readFraction (neg : Bool) (n : Nat) (e : Int) (cs : List Char) : Reading Number :=
  match takeDigits cs n 0 with
  | (n, count, rest) =>
    match skipDigits rest 0 with
    | (0, rest) =>
      if count = 0 then
        match rest with
        | [] => fail .endInValue [] 0
        | _ => fail .invalidNumber rest 1
      else readTail neg n (e - count) rest
    | (_, rest) => readTail neg n (e - count) rest

/-- An integer with the given digits: what 64 bits cannot hold, and the negative zero, is a
double. -/
def finishInt (neg : Bool) (n : Nat) : Number :=
  if neg then
    if n = 0 ∨ 0x8000000000000000 < n then .float (Binary64.ofNat n).negate else .int (-(n : Int))
  else .int n

/-- Reads a number after its sign. -/
def readNumber (neg : Bool) : List Char → Reading Number
  | [] => fail .endInValue [] 0
  | '0' :: rest =>
    match rest with
    | '.' :: more => readFraction neg 0 0 more
    | 'e' :: more | 'E' :: more => readExponent neg 0 0 more
    | c :: _ =>
      if (digit? c).isSome then fail .invalidNumber rest 1 else .ok (finishInt neg 0, rest)
    | [] => .ok (finishInt neg 0, [])
  | cs =>
    match takeDigits cs 0 0 with
    | (n, count, rest) =>
      if count = 0 then fail .invalidNumber cs 1
      else
        match skipDigits rest 0 with
        | (skipped, '.' :: more) => readFraction neg n skipped more
        | (0, rest) =>
          match rest with
          | 'e' :: more | 'E' :: more => readExponent neg n 0 more
          | _ => .ok (finishInt neg n, rest)
        | (skipped, rest) => readTail neg n skipped rest

/-! ## Strings -/

def hexDigit? (c : Char) : Option Nat := Text.digit? 16 c

/-- Reads four hexadecimal digits. Fewer than four bytes end the text; four bytes that are not
four digits are a fault as a whole. -/
def readHex4 (cs : List Char) : Reading Nat :=
  match cs with
  | a :: b :: c :: d :: rest =>
    match hexDigit? a, hexDigit? b, hexDigit? c, hexDigit? d with
    | some a, some b, some c, some d => .ok (((a * 16 + b) * 16 + c) * 16 + d, rest)
    | _, _, _, _ => fail .invalidEscape cs 4
  | _ => if byteLength cs < 4 then fail .endInString [] 0 else fail .invalidEscape cs 4

def isLeading (n : Nat) : Bool := 0xD800 ≤ n && n < 0xDC00

def isTrailing (n : Nat) : Bool := 0xDC00 ≤ n && n < 0xE000

/-- Takes one expected character of the second half of a pair. -/
def expectOfPair (want : Char) : List Char → Except Fault (List Char)
  | [] => fail .endInString [] 0
  | c :: cs => if c = want then .ok cs else fail .endOfHexEscape (c :: cs) 1

/-- Reads the code point of an escape after its `u`: one unit, or two that form a pair. -/
def readUnits (cs : List Char) : Reading Char :=
  match readHex4 cs with
  | .error f => .error f
  | .ok (n, rest) =>
    if isTrailing n then fail .loneSurrogate rest 0
    else if isLeading n then
      match expectOfPair '\\' rest with
      | .error f => .error f
      | .ok rest =>
        match expectOfPair 'u' rest with
        | .error f => .error f
        | .ok rest =>
          match readHex4 rest with
          | .error f => .error f
          | .ok (m, rest) =>
            if isTrailing m then
              .ok (Char.ofNat (0x10000 + (n - 0xD800) * 0x400 + (m - 0xDC00)), rest)
            else fail .loneSurrogate rest 0
    else .ok (Char.ofNat n, rest)

def readEscape : List Char → Reading Char
  | [] => fail .endInString [] 0
  | '"' :: cs => .ok ('"', cs)
  | '\\' :: cs => .ok ('\\', cs)
  | '/' :: cs => .ok ('/', cs)
  | 'b' :: cs => .ok ('\x08', cs)
  | 'f' :: cs => .ok ('\x0c', cs)
  | 'n' :: cs => .ok ('\n', cs)
  | 'r' :: cs => .ok ('\r', cs)
  | 't' :: cs => .ok ('\t', cs)
  | 'u' :: cs => readUnits cs
  | cs => fail .invalidEscape cs 1

/-- Reads a string after its first quote; `acc` holds the characters read, latest first. -/
def readString : Nat → List Char → List Char → Reading String
  | 0, acc, cs => .ok (String.ofList acc.reverse, cs)
  | fuel + 1, acc, cs =>
    match cs with
    | [] => fail .endInString [] 0
    | '"' :: rest => .ok (String.ofList acc.reverse, rest)
    | '\\' :: rest =>
      match readEscape rest with
      | .error f => .error f
      | .ok (c, rest) => readString fuel (c :: acc) rest
    | c :: rest =>
      if c.toNat < 0x20 then fail .controlCharacter cs 1 else readString fuel (c :: acc) rest

/-! ## Arrays and objects -/

/-- What stands at the front of a list or an object before its next part: its end, or that part. -/
inductive Ahead where
  | done (rest : List Char)
  | more (rest : List Char)

/-- Goes to the next item of a list: past a comma unless the item is the first. -/
def nextItem (first : Bool) (cs : List Char) : Except Fault Ahead :=
  match skipSpace cs with
  | [] => fail .endInList [] 0
  | ']' :: rest => .ok (.done rest)
  | c :: rest =>
    if first then .ok (.more (c :: rest))
    else if c = ',' then
      match skipSpace rest with
      | [] => fail .endInValue [] 0
      | ']' :: rest => fail .trailingComma (']' :: rest) 1
      | rest => .ok (.more rest)
    else fail .expectedListCommaOrEnd (c :: rest) 1

/-- Goes to the first quote of the next key of an object. -/
def nextKey (first : Bool) (cs : List Char) : Except Fault Ahead :=
  match skipSpace cs with
  | [] => fail .endInObject [] 0
  | '}' :: rest => .ok (.done rest)
  | c :: rest =>
    if first then
      if c = '"' then .ok (.more rest) else fail .keyNotString (c :: rest) 1
    else if c = ',' then
      match skipSpace rest with
      | [] => fail .endInValue [] 0
      | '"' :: rest => .ok (.more rest)
      | '}' :: rest => fail .trailingComma ('}' :: rest) 1
      | rest => fail .keyNotString rest 1
    else fail .expectedObjectCommaOrEnd (c :: rest) 1

def passColon (cs : List Char) : Except Fault (List Char) :=
  match skipSpace cs with
  | [] => fail .endInObject [] 0
  | ':' :: rest => .ok rest
  | rest => fail .expectedColon rest 1

def readItems (item : List Char → Reading α) : Nat → Bool → List α → List Char → Reading (List α)
  | 0, _, acc, cs => .ok (acc.reverse, cs)
  | fuel + 1, first, acc, cs =>
    match nextItem first cs with
    | .error f => .error f
    | .ok (.done rest) => .ok (acc.reverse, rest)
    | .ok (.more rest) =>
      match item rest with
      | .error f => .error f
      | .ok (v, rest) => readItems item fuel false (v :: acc) rest

/-- Reads the members of an object up to its end; `item` reads the value of one, and keys have
fewer than `size` characters. -/
def readMembers (item : List Char → Reading α) (size : Nat) :
    Nat → Bool → List (String × α) → List Char → Reading (List (String × α))
  | 0, _, acc, cs => .ok (acc.reverse, cs)
  | fuel + 1, first, acc, cs =>
    match nextKey first cs with
    | .error f => .error f
    | .ok (.done rest) => .ok (acc.reverse, rest)
    | .ok (.more rest) =>
      match readString size [] rest with
      | .error f => .error f
      | .ok (k, rest) =>
        match passColon rest with
        | .error f => .error f
        | .ok rest =>
          match item rest with
          | .error f => .error f
          | .ok (v, rest) => readMembers item size fuel false ((k, v) :: acc) rest

/-! ## Values -/

/-- Reads a value that is no array or object from its first character, which is no blank. The text
has fewer than `size` characters, here and below. -/
def readScalar (size : Nat) : List Char → Reading Value
  | [] => fail .endInValue [] 0
  | 'n' :: cs => readWord .null "ull".toList cs
  | 't' :: cs => readWord (.bool true) "rue".toList cs
  | 'f' :: cs => readWord (.bool false) "alse".toList cs
  | '"' :: cs =>
    match readString size [] cs with
    | .error f => .error f
    | .ok (s, rest) => .ok (.string s, rest)
  | '-' :: cs =>
    match readNumber true cs with
    | .error f => .error f
    | .ok (n, rest) => .ok (.number n, rest)
  | c :: cs =>
    if (digit? c).isSome then
      match readNumber false (c :: cs) with
      | .error f => .error f
      | .ok (n, rest) => .ok (.number n, rest)
    else fail .expectedValue (c :: cs) 1

def readValue (size : Nat) : Nat → List Char → Reading Value
  | depth, cs =>
    match skipSpace cs with
    | '[' :: rest =>
      match depth with
      | 0 => fail .tooDeep ('[' :: rest) 1
      | depth + 1 =>
        match readItems (readValue size depth) size true [] rest with
        | .error f => .error f
        | .ok (items, rest) => .ok (.array items, rest)
    | '{' :: rest =>
      match depth with
      | 0 => fail .tooDeep ('{' :: rest) 1
      | depth + 1 =>
        match readMembers (readValue size depth) size size true [] rest with
        | .error f => .error f
        | .ok (members, rest) => .ok (.object members, rest)
    | cs => readScalar size cs

def maxDepth : Nat := 127

def expectEnd (cs : List Char) : Except Fault Unit :=
  match skipSpace cs with
  | [] => .ok ()
  | rest => fail .trailingCharacters rest 1

/-- The value that a text holds, in canonical form. -/
def parse (text : String) : Except ReadError Value :=
  let cs := text.toList
  match readValue (cs.length + 1) maxDepth cs with
  | .error f => .error (f.inText cs)
  | .ok (v, rest) =>
    match expectEnd rest with
    | .error f => .error (f.inText cs)
    | .ok () => .ok v.canonical

end SocketGateway.Json
