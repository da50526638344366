/-!
# Double precision numbers

A double is a sign, a natural number below `2 ^ 53` and a power of two, or an infinity, or the
value that is no number. Every operation works on exact quotients of natural numbers and rounds
once, to the nearest double and from a tie to the even neighbour, so nothing here depends on the
machine's arithmetic.
-/

namespace SocketGateway.Decimal

/-! ## The type -/

/-- A double: `finite neg m e` is `m * 2 ^ e`, negated if `neg`. Zero keeps its sign. -/
inductive Binary64 where
  | finite (neg : Bool) (mantissa : Nat) (exponent : Int)
  | infinite (neg : Bool)
  | nan
deriving DecidableEq, Repr

namespace Binary64

def minExponent : Int := -1074

def maxExponent : Int := 971

def zero (neg : Bool) : Binary64 := .finite neg 0 minExponent

/-- The least mantissa of 53 bits. -/
def leastFull : Nat := 0x10000000000000

def isZero : Binary64 → Bool
  | .finite _ m _ => m == 0
  | _ => false

def negate : Binary64 → Binary64
  | .finite n m e => .finite (!n) m e
  | .infinite n => .infinite (!n)
  | .nan => .nan

/-! ## Rounding a quotient -/

/-- The natural number nearest to `num / den`, the even one of two equally near. -/
def divEven (num den : Nat) : Nat :=
  let q := num / den
  let twice := 2 * (num % den)
  if twice < den then q
  else if den < twice then q + 1
  else if q % 2 = 0 then q else q + 1

/-- The natural number nearest to `num / den`, the larger one of two equally near. -/
def divAway (num den : Nat) : Nat :=
  (2 * num + den) / (2 * den)

def scale (num den : Nat) : Int → Nat × Nat
  | .ofNat k => (num * Nat.pow 2 k, den)
  | .negSucc k => (num, den * Nat.pow 2 (k + 1))

/-- The exponent of the double nearest to the positive `num / den`: the one that leaves a
mantissa of 53 bits, or the least exponent where that would go below it. -/
def exponentOf (num den : Nat) : Int :=
  let guess : Int := (num.log2 : Int) - (den.log2 : Int) - 52
  let (n, d) := scale num den (-guess)
  max minExponent (if n < d * leastFull then guess - 1 else guess)

/-- The double nearest to `num / den`, with the given sign; `den` is positive. -/
def ofRatio (neg : Bool) (num den : Nat) : Binary64 :=
  if num = 0 then zero neg
  else
    let e := exponentOf num den
    let (n, d) := scale num den (-e)
    let m := divEven n d
    let (m, e) := if m = 2 * leastFull then (leastFull, e + 1) else (m, e)
    if maxExponent < e then .infinite neg else .finite neg m e

def ofNat (n : Nat) : Binary64 := ofRatio false n 1

def ofInt : Int → Binary64
  | .ofNat n => ofRatio false n 1
  | .negSucc n => ofRatio true (n + 1) 1

/-- The double nearest to `digits * 10 ^ exponent`. Far outside the range the power of ten is
not computed: what has more than 310 digits before the point is infinite, what starts more than
330 places after it is zero. -/
def ofDecimal (neg : Bool) (digits : Nat) (exponent : Int) : Binary64 :=
  let magnitude : Int := (Nat.toDigits 10 digits).length + exponent
  if digits = 0 then zero neg
  else if 310 < magnitude then .infinite neg
  else if magnitude < -330 then zero neg
  else
    match exponent with
    | .ofNat k => ofRatio neg (digits * Nat.pow 10 k) 1
    | .negSucc k => ofRatio neg digits (Nat.pow 10 (k + 1))

/-! ## Arithmetic -/

def mul : Binary64 → Binary64 → Binary64
  | .finite n m e, .finite n' m' e' =>
    let (num, den) := scale (m * m') 1 (e + e')
    ofRatio (n != n') num den
  | .finite n m _, .infinite n' => if m = 0 then .nan else .infinite (n != n')
  | .infinite n, .finite n' m' _ => if m' = 0 then .nan else .infinite (n != n')
  | .infinite n, .infinite n' => .infinite (n != n')
  | .nan, _ => .nan
  | _, .nan => .nan

def div : Binary64 → Binary64 → Binary64
  | .finite n m e, .finite n' m' e' =>
    if m' = 0 then (if m = 0 then .nan else .infinite (n != n'))
    else
      let (num, den) := scale m m' (e - e')
      ofRatio (n != n') num den
  | .finite n _ _, .infinite n' => zero (n != n')
  | .infinite n, .finite n' _ _ => .infinite (n != n')
  | .infinite _, .infinite _ => .nan
  | .nan, _ => .nan
  | _, .nan => .nan

/-! ## Integers -/

/-- The integer nearest to a finite double, a half going away from zero. -/
def roundAway (neg : Bool) (m : Nat) (e : Int) : Int :=
  let (num, den) := scale m 1 e
  let magnitude := divAway num den
  if neg then -(magnitude : Int) else magnitude

/-- The nearest integer between `lo` and `hi`; what is no number counts as zero. -/
def clamp (lo hi : Int) : Binary64 → Int
  | .finite neg m e => max lo (min hi (roundAway neg m e))
  | .infinite neg => if neg then lo else hi
  | .nan => 0

example : ofRatio false 1 10 = .finite false 7205759403792794 (-56) := by decide +kernel
example : ofDecimal false 5 (-324) = .finite false 1 (-1074) := by decide +kernel
example : ofDecimal false 17976931348623159 292 = .infinite false := by decide +kernel

end Binary64

end SocketGateway.Decimal
