/-!
# Text — UTF-8

Bytes as characters, twice: `decode?` refuses bytes that are no text, while
`decodeLossy` puts one replacement character for each longest run of bytes that
starts a character and does not finish it, and for each byte that starts none.
-/

namespace DeviceLink

namespace Utf8

/-- A byte after the first of a character. -/
def isTail (b : UInt8) : Bool := 0x80 ≤ b && b ≤ 0xbf

/-- The first byte of a character of two bytes. -/
def startsTwo (a : UInt8) : Bool := 0xc2 ≤ a && a ≤ 0xdf

/-- The first two bytes of a character of three bytes. -/
def startsThree (a b : UInt8) : Bool :=
  (a == 0xe0 && 0xa0 ≤ b && b ≤ 0xbf) || (0xe1 ≤ a && a ≤ 0xec && isTail b) ||
    (a == 0xed && 0x80 ≤ b && b ≤ 0x9f) || (0xee ≤ a && a ≤ 0xef && isTail b)

/-- The first two bytes of a character of four bytes. -/
def startsFour (a b : UInt8) : Bool :=
  (a == 0xf0 && 0x90 ≤ b && b ≤ 0xbf) || (0xf1 ≤ a && a ≤ 0xf3 && isTail b) ||
    (a == 0xf4 && 0x80 ≤ b && b ≤ 0x8f)

/-- The bits a byte carries after the first of a character. -/
def low (b : UInt8) : Nat := b.toNat % 64

/-- The character of one byte. -/
def one (a : UInt8) : Char := Char.ofNat a.toNat

/-- The character of two bytes. -/
def two (a b : UInt8) : Char := Char.ofNat (a.toNat % 32 * 64 + low b)

/-- The character of three bytes. -/
def three (a b c : UInt8) : Char := Char.ofNat ((a.toNat % 16 * 64 + low b) * 64 + low c)

/-- The character of four bytes. -/
def four (a b c d : UInt8) : Char :=
  Char.ofNat (((a.toNat % 8 * 64 + low b) * 64 + low c) * 64 + low d)

/-- Stands for bytes that are no character. -/
def replacement : Char := '\ufffd'

/-- The characters of the bytes, if they are a text. -/
def decode? : List UInt8 → Option (List Char)
  | [] => some []
  | a :: r =>
    if a < 0x80 then (decode? r).map (one a :: ·)
    else
      match r with
      | [] => none
      | b :: r =>
        if startsTwo a && isTail b then (decode? r).map (two a b :: ·)
        else
          match r with
          | [] => none
          | c :: r =>
            if startsThree a b && isTail c then (decode? r).map (three a b c :: ·)
            else
              match r with
              | [] => none
              | d :: r =>
                if startsFour a b && isTail c && isTail d then
                  (decode? r).map (four a b c d :: ·)
                else none

/-- The characters of the bytes, with what is no character replaced. -/
def decodeLossy : List UInt8 → List Char
  | [] => []
  | a :: r =>
    if a < 0x80 then one a :: decodeLossy r
    else
      match r with
      | [] => [replacement]
      | b :: s =>
        if startsTwo a && isTail b then two a b :: decodeLossy s
        else if startsThree a b then
          match s with
          | [] => [replacement]
          | c :: t =>
            if isTail c then three a b c :: decodeLossy t
            else replacement :: decodeLossy (c :: t)
        else if startsFour a b then
          match s with
          | [] => [replacement]
          | c :: t =>
            if isTail c then
              match t with
              | [] => [replacement]
              | d :: u =>
                if isTail d then four a b c d :: decodeLossy u
                else replacement :: decodeLossy (d :: u)
            else replacement :: decodeLossy (c :: t)
        else replacement :: decodeLossy (b :: s)

/-- The bytes of a character. -/
def encodeChar (c : Char) : List UInt8 :=
  let n := c.toNat
  let tail (k : Nat) : UInt8 := UInt8.ofNat (0x80 + k % 64)
  if n < 0x80 then [UInt8.ofNat n]
  else if n < 0x800 then [UInt8.ofNat (0xc0 + n / 64), tail n]
  else if n < 0x10000 then [UInt8.ofNat (0xe0 + n / 4096), tail (n / 64), tail n]
  else [UInt8.ofNat (0xf0 + n / 262144), tail (n / 4096), tail (n / 64), tail n]

/-- The bytes of a text. -/
def encode (cs : List Char) : List UInt8 := cs.flatMap encodeChar

example : decodeLossy [0x41, 0xc3, 0xa9, 0xff, 0xe2, 0x82, 0x41] =
    ['A', 'é', replacement, replacement, 'A'] := by decide +kernel

end Utf8

end DeviceLink
