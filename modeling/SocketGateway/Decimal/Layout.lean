import SocketGateway.Decimal.Shortest

/-!
# Writing a double

The digits of a double are its shortest decimal; a `Layout` says how they are laid out. Two
layouts are in use: `Layout.json` for numbers in messages and `Layout.plain` for numbers that
become text in the settings.
-/

namespace SocketGateway.Decimal

/-- How a decimal is written: which powers of ten of the first digit are written positionally
(all of them where `positional` is absent), whether a whole number ends in `.0`, and which of two
equally near decimals is taken. -/
structure Layout where
  positional : Option (Int × Int)
  pointZero : Bool
  tie : Tie
deriving Repr

namespace Layout

/-- Numbers in messages: positional where the first digit stands for `10 ^ -5` to `10 ^ 15`, else
with a signed exponent, and always marked as no integer. -/
def json : Layout := ⟨some (-5, 15), true, .even⟩

/-- Numbers that become text: always positional, whole numbers without a point. -/
def plain : Layout := ⟨none, false, .away⟩

def positionalText (pointZero : Bool) (digits : List Char) (exponent : Int) : List Char :=
  match exponent with
  | .ofNat k =>
    digits ++ List.replicate k '0' ++ (if pointZero then ['.', '0'] else [])
  | .negSucc k =>
    let places := k + 1
    if places < digits.length then
      digits.take (digits.length - places) ++ '.' :: digits.drop (digits.length - places)
    else
      '0' :: '.' :: (List.replicate (places - digits.length) '0' ++ digits)

def exponentText (digits : List Char) (power : Int) : List Char :=
  let mantissa := match digits with
    | [] => []
    | [d] => [d]
    | d :: more => d :: '.' :: more
  let sign := if power < 0 then '-' else '+'
  mantissa ++ 'e' :: sign :: Nat.toDigits 10 power.natAbs

def write (l : Layout) : Binary64 → String
  | .nan => "NaN"
  | .infinite neg => if neg then "-inf" else "inf"
  | .finite neg m e =>
    let body :=
      if m = 0 then '0' :: (if l.pointZero then ['.', '0'] else [])
      else
        let s := Shortest.ofParts l.tie m e
        let digits := Nat.toDigits 10 s.digits
        let power : Int := digits.length + s.exponent - 1
        let isPositional := match l.positional with
          | none => true
          | some (lo, hi) => lo ≤ power && power ≤ hi
        if isPositional then positionalText l.pointZero digits s.exponent
        else exponentText digits power
    String.ofList (if neg then '-' :: body else body)

end Layout

end SocketGateway.Decimal
