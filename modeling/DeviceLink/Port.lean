import DeviceLink.Text.Blank
import DeviceLink.Text.Numeral
/-!
# Ports — ranges of local ports

A session tries the ports of an inclusive range from its first to its last.
The order of the two ends is part of the type, so no range is inverted,
however it was obtained. A range is written `first:last`, or as one port when
its ends agree, and read back with blanks, plus signs and leading zeros
allowed around each end.
-/

namespace DeviceLink

/-- A TCP port. -/
abbrev Port := UInt16

/-- An inclusive range of ports. -/
structure PortRange where
  /-- The port tried first. -/
  first : Port
  /-- The port tried last. -/
  last : Port
  /-- The ends are in order. -/
  first_le_last : first ≤ last
  deriving DecidableEq

namespace PortRange

/-- Why there is no such range. -/
inductive Error
  /-- The first port lies above the last. -/
  | inverted (first last : Port)
  /-- The text is neither `port` nor `first:last`. -/
  | malformed (text : String)
  deriving DecidableEq

/-- How the fault is told to a user. -/
def Error.message : Error → String
  | .inverted first last => s!"Invalid port range {first}:{last}"
  | .malformed text => s!"Invalid port range syntax: '{text}'"

/-- The range between two ports, refused when they are out of order. -/
def between (first last : Port) : Except Error PortRange :=
  if h : first ≤ last then .ok ⟨first, last, h⟩ else .error (.inverted first last)

/-- The range of one port. -/
def single (port : Port) : PortRange := ⟨port, port, UInt16.le_refl port⟩

/-- The ports tried when nothing else is configured. -/
def standard : PortRange := ⟨27183, 27199, by decide⟩

/-- Whether the range holds exactly one port. -/
def isSingle (r : PortRange) : Bool := r.first == r.last

/-- Whether a port lies in the range. -/
def contains (r : PortRange) (port : Port) : Bool :=
  decide (r.first ≤ port) && decide (port ≤ r.last)

/-- The ports of the range in the order they are tried. -/
def ports (r : PortRange) : List Port :=
  (List.range' r.first.toNat (r.last.toNat - r.first.toNat + 1)).map UInt16.ofNat

/-- The range as it is written. -/
def render (r : PortRange) : String :=
  if r.isSingle then toString r.first else s!"{r.first}:{r.last}"

/-- A port as one end of a written range: a numeral with blanks around it. -/
def port? (cs : List Char) : Option Port :=
  match Text.unsigned? (Text.trim cs) with
  | some n => if n < UInt16.size then some (UInt16.ofNat n) else none
  | none => none

/-- The two parts of a text around its first colon, if it has one. -/
def cut (cs : List Char) : List Char × Option (List Char) :=
  match cs.dropWhile (· ≠ ':') with
  | [] => (cs, none)
  | _ :: rest => (cs.takeWhile (· ≠ ':'), some rest)

/-- Read a range. A part that is no port makes the whole text malformed, which
is found before the order of the ends is looked at. -/
def parse (text : String) : Except Error PortRange :=
  match cut text.toList with
  | (only, none) =>
    match port? only with
    | some port => .ok (single port)
    | none => .error (.malformed text)
  | (first, some last) =>
    match port? first, port? last with
    | some first, some last => between first last
    | _, _ => .error (.malformed text)

theorem contains_iff {r : PortRange} {port : Port} :
    r.contains port = true ↔ r.first ≤ port ∧ port ≤ r.last := by
  simp [contains]

theorem isSingle_iff {r : PortRange} : r.isSingle = true ↔ r.first = r.last := by
  simp [isSingle]

theorem isSingle_single (port : Port) : (single port).isSingle = true := by
  simp [single, isSingle]

end PortRange

end DeviceLink
