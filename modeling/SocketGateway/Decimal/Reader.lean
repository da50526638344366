import SocketGateway.Decimal.Binary64
import SocketGateway.Text.Digit

/-!
# Reading numbers from whole texts

A text is an integer if it is digits after a sign, which may be absent, and a double if it has
digits around a point, an exponent, or one of the words for the values that are no finite number.
Nothing else may stand in it, no blank and no separator.
-/

namespace SocketGateway.Decimal

open SocketGateway.Text (isDigit number)

def splitSign : List Char → Bool × List Char
  | '-' :: cs => (true, cs)
  | '+' :: cs => (false, cs)
  | cs => (false, cs)

def natOf? (cs : List Char) : Option Nat :=
  if cs.isEmpty || !cs.all (isDigit 10) then none else some (number 10 cs)

def int64Of? (s : String) : Option Int := do
  let (neg, cs) := splitSign s.toList
  let n ← natOf? cs
  let i : Int := if neg then -(n : Int) else n
  if Int64.minValue.toInt ≤ i ∧ i ≤ Int64.maxValue.toInt then some i else none

def unsignedOf? (limit : Nat) (s : String) : Option Nat := do
  let cs := match s.toList with
    | '+' :: cs => cs
    | cs => cs
  let n ← natOf? cs
  if n < limit then some n else none

def exponentOf? (cs : List Char) : Option Int := do
  let (neg, cs) := splitSign cs
  let n ← natOf? cs
  some (if neg then -(n : Int) else n)

/-- A letter in lower case; only letters of ASCII change. -/
def lower (cs : List Char) : List Char := cs.map Char.toLower

def doubleOf? (s : String) : Option Binary64 :=
  let (neg, cs) := splitSign s.toList
  if lower cs = "inf".toList ∨ lower cs = "infinity".toList then some (.infinite neg)
  else if lower cs = "nan".toList then some .nan
  else
    let whole := cs.takeWhile (isDigit 10)
    let cs := cs.drop whole.length
    let (places, cs) := match cs with
      | '.' :: cs => (cs.takeWhile (isDigit 10), cs.dropWhile (isDigit 10))
      | cs => ([], cs)
    let exponent? := match cs with
      | [] => some 0
      | 'e' :: cs | 'E' :: cs => exponentOf? cs
      | _ => none
    if whole.isEmpty && places.isEmpty then none
    else exponent?.map fun e =>
      Binary64.ofDecimal neg (number 10 (whole ++ places)) (e - places.length)

example : int64Of? "+5" = some 5 ∧ int64Of? "1_000" = none := by decide
example : doubleOf? "-.5e1" = some (Binary64.ofInt (-5)) := by decide +kernel

end SocketGateway.Decimal
