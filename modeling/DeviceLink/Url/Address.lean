import DeviceLink.Text.Numeral
import DeviceLink.Url.Domain
/-!
# URLs — numeric addresses

A host of version four is a word of 32 bits. It is read from up to four parts,
of which the last fills what the others leave, each in decimal, octal or
hexadecimal, and written as four bytes in decimal. A host of version six is
eight words of 16 bits, with one run of zeros left out; its last two words may
be given as an address of version four.
-/

namespace DeviceLink

namespace Ipv4

/-- The value of one or more digits in a base, where they are such. -/
def inBase? (base : Nat) (cs : List Char) : Option Nat :=
  cs.foldlM (fun n c => do
    let d ← Text.hexValue? c
    if d < base then some (base * n + d) else none) 0

/-- A part's value: hexadecimal after `0x`, octal after `0`, else decimal. -/
def part? : List Char → Option Nat
  | [] => none
  | '0' :: 'x' :: cs => inBase? 16 cs
  | '0' :: 'X' :: cs => inBase? 16 cs
  | ['0'] => some 0
  | '0' :: cs => inBase? 8 cs
  | cs => inBase? 10 cs

/-- The parts of a name, an empty last one left out. -/
def parts (name : List Char) : List (List Char) :=
  match (Domain.labels name).reverse with
  | [] :: rest => rest.reverse
  | _ => Domain.labels name

/-- Whether a name can only be an address: its last part is a number. -/
def endsInNumber (name : List Char) : Bool :=
  match (parts name).getLast? with
  | some last => (!last.isEmpty && last.all Char.isDigit) || (part? last).isSome
  | none => false

/-- The word of a list of values, the last of which fills the remaining bytes. -/
def ofValues? (values : List Nat) : Option UInt32 :=
  match values.reverse with
  | [] => none
  | last :: before =>
    let bits := 8 * (4 - before.length)
    if 3 < before.length || before.any (255 < ·) || 1 <<< bits ≤ last then none
    else some (UInt32.ofNat (before.reverse.foldl (fun n v => 256 * n + v) 0 <<< bits + last))

/-- The address a name stands for. -/
def parse? (name : List Char) : Option UInt32 :=
  ((parts name).mapM part?).bind ofValues?

/-- The address as four bytes in decimal. -/
def render (a : UInt32) : List Char :=
  let byte (k : Nat) := (toString (a.toNat >>> (8 * k) % 256)).toList
  ['.'].intercalate [byte 3, byte 2, byte 1, byte 0]

end Ipv4

namespace Ipv6

/-- A word of one to four hexadecimal digits. -/
def word? (cs : List Char) : Option UInt16 :=
  if cs.length ≤ 4 then (Text.hexNumber? cs).map UInt16.ofNat else none

/-- A byte in decimal without leading zeros. -/
def byte? (cs : List Char) : Option Nat :=
  match Text.digits? cs with
  | some n => if n < 256 && (cs.length == 1 || cs.head? != some '0') then some n else none
  | none => none

/-- The two words of an address of version four. -/
def embedded? (cs : List Char) : Option (List UInt16) := do
  let [a, b, c, d] ← (Domain.labels cs).mapM byte? | none
  some [UInt16.ofNat (256 * a + b), UInt16.ofNat (256 * c + d)]

/-- The words of parts, of which the last may be an address of version four. -/
def words? : List (List Char) → Option (List UInt16)
  | [] => some []
  | [cs] => if cs.contains '.' then embedded? cs else (word? cs).map ([·])
  | cs :: rest => do some ((← word? cs) :: (← words? rest))

/-- The words between colons; nothing written is none. -/
def group? (cs : List Char) : Option (List UInt16) :=
  if cs.isEmpty then some [] else words? (Domain.splitOn (· == ':') cs)

/-- The text before and after the first two colons in a row. -/
def atGap : List Char → Option (List Char × List Char)
  | ':' :: ':' :: r => some ([], r)
  | c :: r => (atGap r).map fun (a, b) => (c :: a, b)
  | [] => none

/-- The address a text stands for. -/
def parse? (cs : List Char) : Option (List UInt16) :=
  match atGap cs with
  | none => (group? cs).filter (·.length == 8)
  | some (before, after) => do
    let head ← if before.contains '.' then none else group? before
    let tail ← group? after
    if head.length + tail.length ≤ 7 then
      some (head ++ List.replicate (8 - (head.length + tail.length)) 0 ++ tail)
    else none

/-- How many zeros a list starts with. -/
def zeros (ws : List UInt16) : Nat := (ws.takeWhile (· == 0)).length

/-- Where the longest run of zeros starts, the first of equal ones, and its
length. -/
def longestRun : List UInt16 → Nat × Nat
  | [] => (0, 0)
  | w :: ws =>
    let here := zeros (w :: ws)
    let (start, length) := longestRun ws
    if here ≠ 0 ∧ length ≤ here then (0, here) else (start + 1, length)

/-- Words between colons. -/
def renderWords (ws : List UInt16) : List Char :=
  [':'].intercalate (ws.map fun w => Text.hexDigits w.toNat)

/-- The address, with its longest run of two or more zeros left out. -/
def render (ws : List UInt16) : List Char :=
  let (start, length) := longestRun ws
  if length < 2 then renderWords ws
  else renderWords (ws.take start) ++ [':', ':'] ++ renderWords (ws.drop (start + length))

end Ipv6

example : (Ipv4.parse? "0x7f.1".toList).map Ipv4.render = some "127.0.0.1".toList := by
  decide +kernel
example : (Ipv6.parse? "1:0:0:2:0:0:0:3".toList).map Ipv6.render = some "1:0:0:2::3".toList := by
  decide +kernel
example : (Ipv6.parse? "::ffff:1.2.3.4".toList).map Ipv6.render =
    some "::ffff:102:304".toList := by decide +kernel

end DeviceLink
