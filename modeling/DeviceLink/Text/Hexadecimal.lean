/-!
# Text — hexadecimal numerals

The digits of a number in base sixteen, written in lower case and read in
either. A pair of digits stands for a byte.
-/

namespace DeviceLink

namespace Text

/-- A hexadecimal digit, in lower case. -/
def hexDigit (d : Nat) : Char :=
  if d < 10 then Char.ofNat (0x30 + d) else Char.ofNat (0x61 + (d - 10))

/-- The hexadecimal digits of a number, without leading zeros. -/
def hexDigits (n : Nat) : List Char :=
  if n < 16 then [hexDigit n] else hexDigits (n / 16) ++ [hexDigit (n % 16)]
termination_by n
decreasing_by omega

/-- The value of a hexadecimal digit. -/
def hexValue? (c : Char) : Option Nat :=
  if '0' ≤ c ∧ c ≤ '9' then some (c.toNat - 0x30)
  else if 'a' ≤ c ∧ c ≤ 'f' then some (c.toNat - 0x57)
  else if 'A' ≤ c ∧ c ≤ 'F' then some (c.toNat - 0x37)
  else none

/-- The number of one or more hexadecimal digits. -/
def hexNumber? (ds : List Char) : Option Nat :=
  if ds.isEmpty then none
  else ds.foldlM (fun n d => (hexValue? d).map (16 * n + ·)) 0

/-- Bytes as pairs of digits. -/
def hexOfBytes (bs : List UInt8) : List Char :=
  bs.flatMap fun b => [hexDigit (b.toNat / 16), hexDigit (b.toNat % 16)]

/-- The bytes of pairs of digits, as far as they go. -/
def bytesOfHex : List Char → List UInt8
  | a :: b :: r =>
    match hexValue? a, hexValue? b with
    | some x, some y => UInt8.ofNat (16 * x + y) :: bytesOfHex r
    | _, _ => []
  | _ => []

/-- A digit reads back as its value. -/
theorem hexValue?_hexDigit {d : Nat} (h : d < 16) : hexValue? (hexDigit d) = some d := by
  have hall : ∀ e ∈ List.range 16, hexValue? (hexDigit e) = some e := by decide
  exact hall d (List.mem_range.2 h)

/-- Bytes read back from their digits. -/
theorem bytesOfHex_hexOfBytes (bs : List UInt8) : bytesOfHex (hexOfBytes bs) = bs := by
  induction bs with
  | nil => rfl
  | cons b r ih =>
    have hb : b.toNat < 256 := b.toNat_lt
    have hr : bytesOfHex (hexOfBytes (b :: r)) =
        UInt8.ofNat (16 * (b.toNat / 16) + b.toNat % 16) :: bytesOfHex (hexOfBytes r) := by
      simp [hexOfBytes, bytesOfHex, hexValue?_hexDigit (show b.toNat / 16 < 16 by omega),
        hexValue?_hexDigit (show b.toNat % 16 < 16 by omega)]
    rw [hr, ih, Nat.div_add_mod]
    simp

end Text

end DeviceLink
