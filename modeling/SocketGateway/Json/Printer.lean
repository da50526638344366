import SocketGateway.Json.Value

/-!
# Writing JSON

Values are written without blanks, members in the order they have. In strings quotes, backslashes
and the characters below the space are escaped and nothing else is.
-/

namespace SocketGateway.Json

/-! ## Strings -/

def hexByte (n : Nat) : List Char := [Nat.digitChar (n / 16 % 16), Nat.digitChar (n % 16)]

def escapeChar (c : Char) : List Char :=
  match c with
  | '"' => ['\\', '"']
  | '\\' => ['\\', '\\']
  | '\x08' => ['\\', 'b']
  | '\x0c' => ['\\', 'f']
  | '\n' => ['\\', 'n']
  | '\r' => ['\\', 'r']
  | '\t' => ['\\', 't']
  | c => if c.toNat < 0x20 then '\\' :: 'u' :: '0' :: '0' :: hexByte c.toNat else [c]

def quoted (s : String) : List Char := '"' :: (s.toList.flatMap escapeChar ++ ['"'])

/-! ## Values -/

def Number.chars : Number → List Char
  | .int (.ofNat n) => Nat.toDigits 10 n
  | .int (.negSucc n) => '-' :: Nat.toDigits 10 (n + 1)
  | .float x => (Decimal.Layout.json.write x).toList

namespace Value

mutual

/-- Puts the text of a value, reversed, in front of `acc`. -/
def push : Value → List Char → List Char
  | .null, acc => "null".toList.reverseAux acc
  | .bool true, acc => "true".toList.reverseAux acc
  | .bool false, acc => "false".toList.reverseAux acc
  | .number n, acc => n.chars.reverseAux acc
  | .string s, acc => (quoted s).reverseAux acc
  | .array items, acc => ']' :: pushItems true items ('[' :: acc)
  | .object members, acc => '}' :: pushMembers true members ('{' :: acc)

def pushItems : Bool → List Value → List Char → List Char
  | _, [], acc => acc
  | first, v :: vs, acc => pushItems false vs (push v (if first then acc else ',' :: acc))

def pushMembers : Bool → List (String × Value) → List Char → List Char
  | _, [], acc => acc
  | first, (k, v) :: ms, acc =>
    pushMembers false ms
      (push v (':' :: (quoted k).reverseAux (if first then acc else ',' :: acc)))

end

def chars (v : Value) : List Char := (push v []).reverse

def render (v : Value) : String := String.ofList v.chars

end Value

end SocketGateway.Json
