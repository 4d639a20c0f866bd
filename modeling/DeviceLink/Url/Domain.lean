import DeviceLink.Text.Blank
import DeviceLink.Url.Percent
import DeviceLink.Url.Punycode
/-!
# URLs — domain names

A domain name is held in the one form it is looked up by: in lower case, with
a label beyond ASCII in Punycode after `xn--`. Reading brings a text into that
form and then checks it, so that what is accepted is accepted again unchanged.
-/

namespace DeviceLink

namespace Domain

/-- What may not stand in a domain name. -/
def isForbidden (c : Char) : Bool :=
  Percent.isControl c || " %#/:<>?@[\\]^|".toList.contains c

/-- Dropped from a name: hyphens and joints that are not shown. -/
def isIgnored (c : Char) : Bool :=
  [0xad, 0x200b, 0x2060, 0xfeff].contains c.toNat || (0xfe00 ≤ c.toNat && c.toNat ≤ 0xfe0f)

/-- Whether a character's lower case is the next one, where the two alternate. -/
def alternates (n : Nat) : Bool :=
  n % 2 == 0 && ((0x100 ≤ n && n ≤ 0x12e) || (0x132 ≤ n && n ≤ 0x136) ||
    (0x14a ≤ n && n ≤ 0x176) || (0x460 ≤ n && n ≤ 0x480) || (0x48a ≤ n && n ≤ 0x4be) ||
    (0x4d0 ≤ n && n ≤ 0x52e) || (0x1e00 ≤ n && n ≤ 0x1e94) || (0x1ea0 ≤ n && n ≤ 0x1efe)) ||
  n % 2 == 1 && ((0x139 ≤ n && n ≤ 0x147) || (0x179 ≤ n && n ≤ 0x17d) || (0x4c1 ≤ n && n ≤ 0x4cd))

/-- A character as it stands in a name: in lower case and of the usual width. -/
def fold (c : Char) : Char :=
  let n := c.toNat
  if n < 0x80 then c.toLower
  else if n == 0x3002 || n == 0xff0e || n == 0xff61 then '.'
  else if 0xff01 ≤ n && n ≤ 0xff5e then (Char.ofNat (n - 0xfee0)).toLower
  else if (0xc0 ≤ n && n ≤ 0xde && n != 0xd7) || (0x391 ≤ n && n ≤ 0x3ab) ||
      (0x410 ≤ n && n ≤ 0x42f) then Char.ofNat (n + 0x20)
  else if 0x400 ≤ n && n ≤ 0x40f then Char.ofNat (n + 0x50)
  else if 0x531 ≤ n && n ≤ 0x556 then Char.ofNat (n + 0x30)
  else if alternates n then Char.ofNat (n + 1)
  else c

/-- Beyond ASCII and yet of no use in a name: blanks, controls, characters of
private use and the replacement character. -/
def isUseless (c : Char) : Bool :=
  let n := c.toNat
  Text.isBlank c || (0x80 ≤ n && n ≤ 0x9f) || (0x200e ≤ n && n ≤ 0x200f) ||
    (0x202a ≤ n && n ≤ 0x202e) || (0x2061 ≤ n && n ≤ 0x206f) || (0xe000 ≤ n && n ≤ 0xf8ff) ||
    (0xfff9 ≤ n && n ≤ 0xffff) || 0xe0000 ≤ n

/-- The parts of a text between a separator. -/
def splitOn (sep : Char → Bool) : List Char → List (List Char)
  | [] => [[]]
  | c :: r =>
    match splitOn sep r with
    | part :: parts => if sep c then [] :: part :: parts else (c :: part) :: parts
    | [] => [[c]]

/-- A label in ASCII. -/
def asciiLabel (label : List Char) : List Char :=
  if label.all (·.toNat < 0x80) then label else "xn--".toList ++ Punycode.encode label

/-- Whether a label in ASCII stands for one: what follows `xn--` is how some
label beyond ASCII is written. -/
def isLabel (label : List Char) : Bool :=
  !label.any isForbidden && label.all (fun c => c.toLower == c) &&
    match label with
    | 'x' :: 'n' :: '-' :: '-' :: text =>
      match Punycode.decode? text with
      | some shown =>
        shown.any (0x80 ≤ ·.toNat) && Punycode.encode shown == text &&
          !shown.any (fun c => fold c != c || isIgnored c || isUseless c)
      | none => false
    | _ => true

/-- The labels of a text. -/
def labels (cs : List Char) : List (List Char) := splitOn (· == '.') cs

/-- The name a text stands for, if it is one. -/
def ofText? (cs : List Char) : Option (List Char) :=
  let folded := (cs.filter (!isIgnored ·)).map fold
  let name := ['.'].intercalate ((labels folded).map asciiLabel)
  if (labels name).all isLabel then some name else none

/-- The name a host's text stands for, after its escapes are read. -/
def parse? (host : List Char) : Option (List Char) :=
  (Utf8.decode? (Percent.decode host)).bind ofText?

example : parse? "EXAMPLE.com".toList = some "example.com".toList := by decide +kernel
example : parse? "bücher.DE".toList = some "xn--bcher-kva.de".toList := by decide +kernel
example : parse? "a%2Fb".toList = none := by decide +kernel

end Domain

end DeviceLink
