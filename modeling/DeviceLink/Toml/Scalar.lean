import DeviceLink.Datum
import DeviceLink.Text.Numeral
/-!
# TOML — numbers, truth values, dates and times

A value without quotes is one run of characters, except that a date and a time
may be parted by a single space. Its whole run decides what it is: an integer
in one of four bases, a decimal fraction, a truth value, or a date, a time or
both, each part within its bounds.
-/

namespace DeviceLink

namespace Toml

open Number (Binary64)

/-! ## Digits -/

/-- Digits with single underscores between two of them, without the
underscores. -/
def grouped? (isDigit : Char → Bool) : List Char → Option (List Char)
  | [] => none
  | [c] => if isDigit c then some [c] else none
  | c :: '_' :: r => if isDigit c then (grouped? isDigit r).map (c :: ·) else none
  | c :: r => if isDigit c then (grouped? isDigit r).map (c :: ·) else none

/-- A sign, if there is one, and what follows it. -/
def sign : List Char → Bool × List Char
  | '-' :: r => (true, r)
  | '+' :: r => (false, r)
  | r => (false, r)

/-- Decimal digits without a needless leading zero. -/
def plainDigits? (cs : List Char) : Option (List Char) :=
  match grouped? Char.isDigit cs with
  | some ('0' :: _ :: _) => none
  | ds => ds

/-! ## Integers -/

/-- The largest integer the format holds. -/
def greatest : Nat := 0x7fffffffffffffff

/-- The value of a digit in a base up to sixteen. -/
def digitIn (base : Nat) (c : Char) : Option Nat :=
  let v :=
    if '0' ≤ c ∧ c ≤ '9' then c.toNat - 0x30
    else if 'a' ≤ c ∧ c ≤ 'f' then c.toNat - 0x57
    else if 'A' ≤ c ∧ c ≤ 'F' then c.toNat - 0x37
    else base
  if v < base then some v else none

/-- Digits in a base, none of them negative. -/
def inBase? (base : Nat) (cs : List Char) : Option Int := do
  let ds ← grouped? (fun c => (digitIn base c).isSome) cs
  let n := ds.foldl (fun n c => base * n + (digitIn base c).getD 0) 0
  if n ≤ greatest then some n else none

/-- An integer. -/
def integer? : List Char → Option Int
  | '0' :: 'x' :: r => inBase? 16 r
  | '0' :: 'o' :: r => inBase? 8 r
  | '0' :: 'b' :: r => inBase? 2 r
  | cs => do
    let (negative, r) := sign cs
    let n := Text.digitsValue (← plainDigits? r)
    if negative then (if n ≤ greatest + 1 then some (-(n : Int)) else none)
    else if n ≤ greatest then some n else none

/-! ## Fractions -/

/-- The digits of an exponent with its sign. -/
def exponent? (cs : List Char) : Option Int := do
  let (negative, r) := sign cs
  let n := Text.digitsValue (← grouped? Char.isDigit r)
  return if negative then -(n : Int) else n

/-- Whether a character opens an exponent. -/
def isExponentMark (c : Char) : Bool := c == 'e' || c == 'E'

/-- A decimal fraction: a point with digits on both sides, an exponent, or
both. One too large for the format is refused. -/
def fraction? (cs : List Char) : Option Binary64 := do
  let (negative, r) := sign cs
  match r with
  | ['i', 'n', 'f'] => return .infinite negative
  | ['n', 'a', 'n'] => return .nan
  | _ =>
    let mantissa := r.takeWhile (!isExponentMark ·)
    let power ←
      match r.dropWhile (!isExponentMark ·) with
      | [] => if mantissa.contains '.' then some 0 else none
      | _ :: e => exponent? e
    let whole ← plainDigits? (mantissa.takeWhile (· != '.'))
    let places ←
      match mantissa.dropWhile (· != '.') with
      | [] => some []
      | _ :: p => grouped? Char.isDigit p
    let x := Binary64.ofDecimal negative (Text.digitsValue (whole ++ places))
      (power - (places.length : Nat))
    if x = .infinite false then none else some x

/-! ## Dates and times -/

/-- A number of exactly as many digits as there are characters, in bounds. -/
def within? (lo hi : Nat) (cs : List Char) : Option Nat :=
  if cs.all Char.isDigit ∧ lo ≤ Text.digitsValue cs ∧ Text.digitsValue cs ≤ hi then
    some (Text.digitsValue cs)
  else none

/-- How many days a month has. -/
def monthLength (year month : Nat) : Nat :=
  if month = 2 then
    if year % 4 = 0 ∧ (year % 100 ≠ 0 ∨ year % 400 = 0) then 29 else 28
  else if month = 4 ∨ month = 6 ∨ month = 9 ∨ month = 11 then 30
  else 31

/-- Whether the characters are a date. -/
def isDate : List Char → Bool
  | [y1, y2, y3, y4, '-', m1, m2, '-', d1, d2] =>
    match within? 0 9999 [y1, y2, y3, y4], within? 1 12 [m1, m2] with
    | some year, some month => (within? 1 (monthLength year month) [d1, d2]).isSome
    | _, _ => false
  | _ => false

/-- What follows a time of day at the start of the characters. -/
def afterTime? : List Char → Option (List Char)
  | h1 :: h2 :: ':' :: m1 :: m2 :: ':' :: s1 :: s2 :: r => do
    let _ ← within? 0 23 [h1, h2]
    let _ ← within? 0 59 [m1, m2]
    let _ ← within? 0 60 [s1, s2]
    match r with
    | '.' :: p =>
      if (p.takeWhile Char.isDigit).isEmpty then none else some (p.dropWhile Char.isDigit)
    | r => some r
  | _ => none

/-- Whether the characters are a distance from universal time. -/
def isOffset : List Char → Bool
  | ['Z'] => true
  | ['z'] => true
  | [s, h1, h2, ':', m1, m2] =>
    (s == '+' || s == '-') && (within? 0 23 [h1, h2]).isSome && (within? 0 59 [m1, m2]).isSome
  | _ => false

/-- Whether the characters are a time of day with or without such a distance. -/
def isZonedTime (cs : List Char) : Bool :=
  match afterTime? cs with
  | some [] => true
  | some r => isOffset r
  | none => false

/-- Whether the characters are a date, a time, or both. -/
def isMoment (cs : List Char) : Bool :=
  isDate cs || afterTime? cs == some [] ||
    (isDate (cs.take 10) &&
      match cs.drop 10 with
      | 'T' :: r => isZonedTime r
      | 't' :: r => isZonedTime r
      | _ => false)

/-! ## Values without quotes -/

/-- The characters of a value without quotes. -/
def isPlain (c : Char) : Bool :=
  c.isAlphanum || c == '_' || c == '+' || c == '-' || c == '.' || c == ':'

/-- The value a whole run of characters is. -/
def ofRun? (cs : List Char) : Option Datum :=
  if cs = ['t', 'r', 'u', 'e'] then some (.bool true)
  else if cs = ['f', 'a', 'l', 's', 'e'] then some (.bool false)
  else if isMoment cs then some (.moment (String.ofList cs))
  else
    match integer? cs with
    | some n => some (.int n)
    | none => (fraction? cs).map .float

/-- A value without quotes and what follows it. -/
def plain? (cs : List Char) : Option (Datum × List Char) :=
  let run := cs.takeWhile isPlain
  let rest := cs.dropWhile isPlain
  let time :=
    match rest with
    | ' ' :: r => r.takeWhile isPlain
    | _ => []
  if isDate run ∧ isZonedTime time then
    some (.moment (String.ofList (run ++ ' ' :: time)), (rest.drop 1).dropWhile isPlain)
  else (ofRun? run).map fun d => (d, rest)

example : integer? "1_000".toList = some 1000 ∧ integer? "1__0".toList = none := by decide
example : integer? "0x6A2F".toList = some 27183 ∧ integer? "007".toList = none := by decide
example : isMoment "1979-05-27T07:32:00Z".toList ∧ isMoment "2001-02-29".toList = false := by
  decide

end Toml

end DeviceLink
