import SocketGateway.Decimal.Binary64

/-!
# The fewest digits that read back

Every double has an interval of reals that round to it. Its shortest decimal is the first, going
through the grids of one, two, … digits, of which a point lies in that interval; of two points
on that grid the one nearer to the double is taken, and from a tie the one that `Tie` names.
All comparisons are between products of natural numbers.
-/

namespace SocketGateway.Decimal

/-- Which of two equally near decimals is taken. -/
inductive Tie where
  | even
  | away
deriving DecidableEq, Repr

/-- A positive decimal: `digits * 10 ^ exponent`, where `digits` does not end in zero. -/
structure Shortest where
  digits : Nat
  exponent : Int
deriving DecidableEq, Repr

namespace Shortest

def scaleTen (num den : Nat) : Int → Nat × Nat
  | .ofNat k => (num * Nat.pow 10 k, den)
  | .negSucc k => (num, den * Nat.pow 10 (k + 1))

/-- Whether `a / b ≤ c / d`, or `a / b < c / d` where the bound itself is outside. -/
def within (inclusive : Bool) (a b c d : Nat) : Bool :=
  if inclusive then a * d ≤ c * b else a * d < c * b

/-- The reals that round to `m * 2 ^ e`, as numerators over four times the unit: from half a unit
below (a quarter where the double below is closer) to half a unit above. The ends belong to it
if `m` is even. -/
def bounds (m : Nat) (e : Int) : Nat × Nat :=
  let below := if m = Binary64.leastFull ∧ Binary64.minExponent < e then 1 else 2
  (4 * m - below, 4 * m + 2)

def magnitude (num den : Nat) : Int :=
  let guess : Int := ((num.log2 : Int) - (den.log2 : Int)) * 1233 / 4096 - 1
  let rec go : Nat → Int → Int
    | 0, k => k
    | fuel + 1, k =>
      let (n, d) := scaleTen num den (-k)
      if n < d then k else go fuel (k + 1)
  go 4 guess

/-- The point of the grid of `10 ^ k` nearest to the double that lies in its interval. -/
def onGrid? (tie : Tie) (m : Nat) (e k : Int) : Option Nat :=
  let (lo, hi) := bounds m e
  let inclusive := m % 2 == 0
  let (unit, den) := Binary64.scale 1 4 e
  -- in steps of the grid: the interval, and the double itself
  let (one, den) := scaleTen unit den (-k)
  let down := (4 * m * one) / den
  let up := down + 1
  let downIn := within inclusive (lo * one) den down 1
  let upIn := within inclusive up 1 (hi * one) den
  let twice := 2 * ((4 * m * one) % den)
  match downIn, upIn with
  | true, true =>
    if twice < den then some down
    else if den < twice then some up
    else match tie with
      | .even => some (if down % 2 = 0 then down else up)
      | .away => some up
  | true, false => some down
  | false, true => some up
  | false, false => none

def trimZeros : Nat → Shortest → Shortest
  | 0, s => s
  | fuel + 1, s =>
    if s.digits % 10 = 0 ∧ s.digits ≠ 0 then trimZeros fuel ⟨s.digits / 10, s.exponent + 1⟩ else s

/-- The shortest decimal of the double `m * 2 ^ e`, where `m` is positive: seventeen digits always
suffice. -/
def ofParts (tie : Tie) (m : Nat) (e : Int) : Shortest :=
  let (num, den) := Binary64.scale m 1 e
  let top := magnitude num den
  let hit? := (List.range 17).findSome? fun (i : Nat) =>
    let k := top - (i + 1 : Nat)
    match onGrid? tie m e k with
    | some 0 => none
    | some d => some (Shortest.mk d k)
    | none => none
  trimZeros 20 (hit?.getD ⟨0, 0⟩)

example : ofParts .even 7205759403792794 (-56) = ⟨1, -1⟩ := by decide +kernel
example : ofParts .even 1 (-1074) = ⟨5, -324⟩ := by decide +kernel

end Shortest

end SocketGateway.Decimal
