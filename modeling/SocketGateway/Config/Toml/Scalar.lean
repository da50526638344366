import SocketGateway.Config.Toml.Value
import SocketGateway.Decimal.Reader

/-!
# Numbers, dates and truth values

A value without quotes or brackets is a run of characters that is decoded as a whole. Digits may be
separated by single underscores; whole numbers fit into 64 bits; dates and times are checked
against the calendar and kept as text in one form.
-/

namespace SocketGateway.Config.Toml

open SocketGateway.Decimal (Binary64 splitSign)
open SocketGateway.Text (isDigit number)

/-! ## Numbers -/

/-- Digits after the first one: each may have one underscore before it. -/
def moreDigits? (base : Nat) : List Char → Option (List Char)
  | [] => some []
  | '_' :: c :: cs => if isDigit base c then (moreDigits? base cs).map (c :: ·) else none
  | c :: cs => if isDigit base c then (moreDigits? base cs).map (c :: ·) else none

def digits? (base : Nat) : List Char → Option (List Char)
  | c :: cs => if isDigit base c then (moreDigits? base cs).map (c :: ·) else none
  | [] => none

def decimals? (cs : List Char) : Option (List Char) := do
  let ds ← digits? 10 cs
  match ds with
  | '0' :: _ :: _ => none
  | _ => some ds

def int? (neg : Bool) (n : Nat) : Option Value :=
  let i : Int := if neg then -(n : Int) else n
  if Int64.minValue.toInt ≤ i ∧ i ≤ Int64.maxValue.toInt then some (.int i) else none

def integer? (cs : List Char) : Option Value :=
  match cs with
  | '0' :: 'x' :: ds => (digits? 16 ds).bind fun ds => int? false (number 16 ds)
  | '0' :: 'o' :: ds => (digits? 8 ds).bind fun ds => int? false (number 8 ds)
  | '0' :: 'b' :: ds => (digits? 2 ds).bind fun ds => int? false (number 2 ds)
  | _ =>
    let (neg, cs) := splitSign cs
    (decimals? cs).bind fun ds => int? neg (number 10 ds)

def exponent? : List Char → Option Int
  | [] => some 0
  | 'e' :: cs | 'E' :: cs =>
    let (neg, cs) := splitSign cs
    (digits? 10 cs).map fun ds => if neg then -(number 10 ds : Int) else number 10 ds
  | _ => none

/-- The double that a text is: a point with digits on both sides, an exponent, or a word. A
number beyond the doubles is none. -/
def float? (cs : List Char) : Option Value :=
  let (neg, cs) := splitSign cs
  if cs = "inf".toList then some (.float (.infinite neg))
  else if cs = "nan".toList then some (.float .nan)
  else do
    let inNumber (c : Char) : Bool := isDigit 10 c || c == '_'
    let whole ← decimals? (cs.takeWhile inNumber)
    let (places, rest) ← match cs.dropWhile inNumber with
      | '.' :: cs => (digits? 10 (cs.takeWhile inNumber)).map fun ds => (ds, cs.dropWhile inNumber)
      | cs => some ([], cs)
    if places.isEmpty && rest.isEmpty then none
    let e ← exponent? rest
    match Binary64.ofDecimal neg (number 10 (whole ++ places)) (e - places.length) with
    | .infinite _ => none
    | x => some (.float x)

/-! ## Dates and times -/

def takeDigits? (n : Nat) (cs : List Char) : Option (Nat × List Char) :=
  let ds := cs.take n
  if ds.length = n ∧ ds.all (isDigit 10) then some (number 10 ds, cs.drop n) else none

def take? (want : Char) : List Char → Option (List Char)
  | c :: cs => if c = want then some cs else none
  | [] => none

def daysIn (year month : Nat) : Nat :=
  if month = 2 then
    if year % 4 = 0 ∧ (year % 100 ≠ 0 ∨ year % 400 = 0) then 29 else 28
  else if [4, 6, 9, 11].contains month then 30
  else 31

def date? (cs : List Char) : Option (List Char × List Char) := do
  let (year, rest) ← takeDigits? 4 cs
  let rest ← take? '-' rest
  let (month, rest) ← takeDigits? 2 rest
  let rest ← take? '-' rest
  let (day, rest) ← takeDigits? 2 rest
  if 1 ≤ month ∧ month ≤ 12 ∧ 1 ≤ day ∧ day ≤ daysIn year month then some (cs.take 10, rest)
  else none

/-- Without the zeros at the end, but not empty. -/
def trimFraction (ds : List Char) : List Char :=
  match (ds.reverse.dropWhile (· == '0')).reverse with
  | [] => ['0']
  | ds => ds

/-- Takes the fraction of a second, of which nine digits count. -/
def fraction? (cs : List Char) : Option (List Char × List Char) :=
  match cs with
  | '.' :: cs =>
    let ds := cs.takeWhile (isDigit 10)
    if ds.isEmpty then none else some ('.' :: trimFraction (ds.take 9), cs.drop ds.length)
  | cs => some ([], cs)

def seconds? (cs : List Char) : Option (List Char × List Char) :=
  match cs with
  | ':' :: rest => do
    let (second, rest) ← takeDigits? 2 rest
    let (fraction, rest) ← fraction? rest
    if second ≤ 60 then some (cs.take 3 ++ fraction, rest) else none
  | cs => some ([], cs)

def time? (cs : List Char) : Option (List Char × List Char) := do
  let (hour, rest) ← takeDigits? 2 cs
  let rest ← take? ':' rest
  let (minute, rest) ← takeDigits? 2 rest
  let (seconds, rest) ← seconds? rest
  if hour ≤ 23 ∧ minute ≤ 59 then some (cs.take 5 ++ seconds, rest) else none

/-- Takes an offset, which may be absent; no offset is written with a minus if it is zero. -/
def offset? (cs : List Char) : Option (List Char × List Char) :=
  match cs with
  | 'Z' :: rest | 'z' :: rest => some (['Z'], rest)
  | sign :: rest =>
    if sign = '+' ∨ sign = '-' then do
      let (hours, after) ← takeDigits? 2 rest
      let after ← take? ':' after
      let (minutes, after) ← takeDigits? 2 after
      if hours ≤ 23 ∧ minutes ≤ 59 then
        let sign := if hours = 0 ∧ minutes = 0 then '+' else sign
        some (sign :: rest.take 5, after)
      else none
    else some ([], cs)
  | [] => some ([], [])

def moment? (cs : List Char) : Option Value := do
  match date? cs with
  | some (date, []) => some (.text (String.ofList date))
  | some (date, c :: rest) =>
    if c = 'T' ∨ c = 't' ∨ c = ' ' then
      let (time, rest) ← time? rest
      let (offset, rest) ← offset? rest
      if rest.isEmpty then some (.text (String.ofList (date ++ 'T' :: (time ++ offset)))) else none
    else none
  | none =>
    let (time, rest) ← time? cs
    if rest.isEmpty then some (.text (String.ofList time)) else none

/-! ## All of them -/

def isScalarChar (c : Char) : Bool :=
  c.isAlphanum || c == '_' || c == '-' || c == '+' || c == '.' || c == ':'

def scalar? (cs : List Char) : Option Value :=
  if cs = "true".toList then some (.bool true)
  else if cs = "false".toList then some (.bool false)
  else (integer? cs).orElse fun _ => (moment? cs).orElse fun _ => float? cs

/-- Takes the characters of a value; a time may follow a date after one space. -/
def takeScalar (cs : List Char) : List Char × List Char :=
  let front := cs.takeWhile isScalarChar
  let rest := cs.drop front.length
  match date? front, rest with
  | some (_, []), ' ' :: c :: more =>
    if isDigit 10 c then
      let time := (c :: more).takeWhile isScalarChar
      (front ++ ' ' :: time, (c :: more).drop time.length)
    else (front, rest)
  | _, _ => (front, rest)

end SocketGateway.Config.Toml
