/-!
# Text — decimal numerals

Whole numbers written in ASCII decimal digits. `digits?` reads a bare run of
digits, `unsigned?` also takes a plus sign, and `signed` reads a word of a
given width and says what is wrong with a text it refuses: the fault named is
the leftmost one, so a numeral that overflows before its first wrong
character is too large and not misspelt.
-/

namespace DeviceLink

namespace Text

/-- The value of a decimal digit. -/
def digitValue (c : Char) : Nat := c.toNat - '0'.toNat

/-- The value of a run of digits, most significant first. -/
def digitsValue (cs : List Char) : Nat :=
  cs.foldl (fun n c => 10 * n + digitValue c) 0

/-- A run of one or more decimal digits, leading zeros allowed. -/
def digits? (cs : List Char) : Option Nat :=
  if cs ≠ [] ∧ cs.all Char.isDigit then some (digitsValue cs) else none

/-- A run of digits after an optional plus sign. -/
def unsigned? : List Char → Option Nat
  | '+' :: cs => digits? cs
  | cs => digits? cs

/-- What keeps a text from being a numeral of some width. -/
inductive NumeralError
  /-- Nothing is written. -/
  | empty
  /-- A character is not a digit, or a sign stands alone. -/
  | invalidDigit
  /-- The value lies above the width's largest. -/
  | tooLarge
  /-- The value lies below the width's least. -/
  | tooSmall
  deriving DecidableEq, Repr

/-- How the fault is told to a user. -/
def NumeralError.message : NumeralError → String
  | .empty => "cannot parse integer from empty string"
  | .invalidDigit => "invalid digit found in string"
  | .tooLarge => "number too large to fit in target type"
  | .tooSmall => "number too small to fit in target type"

/-- Read digits from the left onto `acc`, stopping at the first character that
is no digit or takes the value above `limit`. -/
def accumulate (limit : Nat) (overflow : NumeralError) :
    Nat → List Char → Except NumeralError Nat
  | acc, [] => .ok acc
  | acc, c :: cs =>
    if !c.isDigit then .error .invalidDigit
    else if limit < 10 * acc + digitValue c then .error overflow
    else accumulate limit overflow (10 * acc + digitValue c) cs

/-- A numeral with an optional sign, of a value a signed word of `bits` bits holds. -/
def signed (bits : Nat) : List Char → Except NumeralError Int
  | [] => .error .empty
  | ['+'] => .error .invalidDigit
  | ['-'] => .error .invalidDigit
  | '+' :: cs => (accumulate (1 <<< (bits - 1) - 1) .tooLarge 0 cs).map Int.ofNat
  | '-' :: cs => (accumulate (1 <<< (bits - 1)) .tooSmall 0 cs).map fun n => -(n : Int)
  | cs => (accumulate (1 <<< (bits - 1) - 1) .tooLarge 0 cs).map Int.ofNat

example : unsigned? "+00080".toList = some 80 := by decide
example : unsigned? "+".toList = none ∧ unsigned? "1_0".toList = none := by decide
example : signed 8 "-128".toList = .ok (-128) := by rfl
example : signed 8 "-129".toList = .error .tooSmall := by rfl
example : signed 8 "999x".toList = .error .tooLarge := by rfl

end Text

end DeviceLink
