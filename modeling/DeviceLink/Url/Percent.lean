import DeviceLink.Text.Hexadecimal
import DeviceLink.Text.Utf8
/-!
# URLs — percent escapes

A part of a URL is written with the characters escaped that would end it or
are no printable ASCII. Each part has its own set of them, and each set holds
the one before it.
-/

namespace DeviceLink

namespace Percent

/-- Neither printable nor ASCII. -/
def isControl (c : Char) : Bool := c.toNat < 0x20 || 0x7f ≤ c.toNat

/-- Escaped in a fragment. -/
def inFragment (c : Char) : Bool := isControl c || " \"<>`".toList.contains c

/-- Escaped in a query. -/
def inQuery (c : Char) : Bool := isControl c || " \"#<>".toList.contains c

/-- Escaped in a query where the single quote delimits, too. -/
def inQuotedQuery (c : Char) : Bool := inQuery c || c == '\''

/-- Escaped in a segment of a path. -/
def inPath (c : Char) : Bool := inFragment c || "#?\x7b\x7d".toList.contains c

/-- Escaped in a user name or a password. -/
def inUserInfo (c : Char) : Bool := inPath c || "/:;=@[\\]^|".toList.contains c

/-- A byte's escape, in capital digits. -/
def escapeByte (b : UInt8) : List Char :=
  let digit (n : Nat) := (Text.hexDigit n).toUpper
  ['%', digit (b.toNat / 16), digit (b.toNat % 16)]

/-- The text with the characters of a set escaped byte by byte. -/
def encode (escaped : Char → Bool) (cs : List Char) : List Char :=
  cs.flatMap fun c => if escaped c then (Utf8.encodeChar c).flatMap escapeByte else [c]

/-- The bytes of a text, with every whole escape read as its byte. -/
def decode : List Char → List UInt8
  | '%' :: a :: b :: r =>
    match Text.hexValue? a, Text.hexValue? b with
    | some x, some y => UInt8.ofNat (16 * x + y) :: decode r
    | _, _ => UInt8.ofNat '%'.toNat :: decode (a :: b :: r)
  | c :: r => Utf8.encodeChar c ++ decode r
  | [] => []

/-- A text free of a set's characters is written as it is. -/
theorem encode_eq_self {escaped : Char → Bool} {cs : List Char}
    (h : ∀ c ∈ cs, escaped c = false) : encode escaped cs = cs := by
  induction cs with
  | nil => rfl
  | cons c r ih =>
    have hc := h c (by simp)
    have hr := ih fun d hd => h d (by simp [hd])
    simp only [encode] at hr
    simp [encode, hc, hr]

example : encode inPath "a b".toList = "a%20b".toList := by decide
example : encode inPath ['é'] = "%C3%A9".toList := by decide

end Percent

end DeviceLink
