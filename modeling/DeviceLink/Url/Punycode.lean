/-!
# URLs — Punycode

A label with characters beyond ASCII in ASCII alone. The ASCII characters come
first; then, in increasing order, each other character as the distance from
the one before, counted over all places it could be inserted at. A distance is
written in digits of base 36, least significant first, and ends with the first
digit below a threshold that adapts to the distances seen.
-/

namespace DeviceLink

namespace Punycode

/-- A digit as a character: letters, then decimal digits. -/
def digit (d : Nat) : Char :=
  if d < 26 then Char.ofNat (0x61 + d) else Char.ofNat (0x30 + (d - 26))

/-- The value of a digit, in either case. -/
def digitValue? (c : Char) : Option Nat :=
  if c.isLower then some (c.toNat - 0x61)
  else if c.isUpper then some (c.toNat - 0x41)
  else if c.isDigit then some (c.toNat - 0x30 + 26)
  else none

/-- The value below which a digit is the last of its distance. -/
def threshold (place bias : Nat) : Nat := max 1 (min 26 (place - bias))

theorem threshold_pos (place bias : Nat) : 1 ≤ threshold place bias := by
  unfold threshold; omega

/-- Divide a distance down, counting the places that takes. -/
def damp (delta places : Nat) : Nat × Nat :=
  if 455 < delta then damp (delta / 35) (places + 36) else (delta, places)
termination_by delta
decreasing_by omega

/-- The bias after a distance, once `count` characters are written. -/
def adapt (delta count : Nat) (first : Bool) : Nat :=
  let delta := if first then delta / 700 else delta / 2
  let (delta, places) := damp (delta + delta / count) 0
  places + 36 * delta / (delta + 38)

/-- The digits of a distance. -/
def digits (bias place n : Nat) : List Char :=
  let t := threshold place bias
  if n < t then [digit n]
  else digit (t + (n - t) % (36 - t)) :: digits bias (place + 36) ((n - t) / (36 - t))
termination_by n
decreasing_by
  have := threshold_pos place bias
  exact Nat.lt_of_le_of_lt (Nat.div_le_self _ _) (by omega)

/-- What is written so far: the characters, how many places are passed since
the last of them, the bias, and how many characters are done. -/
structure Progress where
  written : List Char
  delta : Nat
  bias : Nat
  count : Nat

/-- Pass one place of the label while the character `next` is inserted. -/
def pass (ascii next : Nat) (p : Progress) (c : Char) : Progress :=
  if c.toNat < next then { p with delta := p.delta + 1 }
  else if c.toNat = next then
    ⟨p.written ++ digits p.bias 36 p.delta, 0, adapt p.delta (p.count + 1) (p.count == ascii),
      p.count + 1⟩
  else p

/-- Insert every character of `rest`, in increasing order. -/
def insertAll (label : List Char) (ascii : Nat) : Nat → List Nat → Progress → List Char
  | _, [], p => p.written
  | least, next :: rest, p =>
    let p := label.foldl (pass ascii next)
      { p with delta := p.delta + (next - least) * (p.count + 1) }
    insertAll label ascii (next + 1) rest { p with delta := p.delta + 1 }

/-- Put a number into an increasing list, unless it is there. -/
def place (n : Nat) : List Nat → List Nat
  | [] => [n]
  | m :: ms => if n < m then n :: m :: ms else if n = m then m :: ms else m :: place n ms

/-- The label in ASCII. -/
def encode (label : List Char) : List Char :=
  let ascii := label.filter (·.toNat < 0x80)
  let others := ((label.map Char.toNat).filter (0x80 ≤ ·)).foldr place []
  let written := if ascii.isEmpty then [] else ascii ++ ['-']
  insertAll label ascii.length 0x80 others ⟨written, 0, 72, ascii.length⟩

/-- Read a distance onto `n`. -/
def distance? (bias : Nat) : Nat → Nat → Nat → List Char → Option (Nat × List Char)
  | _, _, _, [] => none
  | place, weight, n, c :: r => do
    let d ← digitValue? c
    let t := threshold place bias
    if d < t then some (n + d * weight, r)
    else distance? bias (place + 36) (weight * (36 - t)) (n + d * weight) r

/-- Insert the characters the rest of the text tells of. Each takes at least
one character of it, which bounds the number of steps by its length. -/
def insertTold (ascii : Nat) : Nat → Nat → Nat → Nat → List Char → List Char → Option (List Char)
  | _, _, _, _, label, [] => some label
  | 0, _, _, _, _, _ :: _ => none
  | steps + 1, point, place, bias, label, c :: r => do
    let (sum, rest) ← distance? bias 36 1 place (c :: r)
    let count := label.length + 1
    let point := point + sum / count
    if point.isValidChar then
      insertTold ascii steps point (sum % count + 1)
        (adapt (sum - place) count (label.length == ascii))
        (label.insertIdx (sum % count) (Char.ofNat point)) rest
    else none

/-- The label a text in ASCII stands for. -/
def decode? (text : List Char) : Option (List Char) :=
  let back := text.reverse.dropWhile (· != '-')
  let ascii := (back.drop 1).reverse
  let rest := text.drop back.length
  insertTold ascii.length rest.length 0x80 0 72 ascii rest

example : encode "bücher".toList = "bcher-kva".toList := by decide +kernel
example : decode? "bcher-kva".toList = some "bücher".toList := by decide +kernel
example : encode "例え".toList = "r8jz45g".toList := by decide +kernel

end Punycode

end DeviceLink
