import DeviceLink.Toml.Scalar
import DeviceLink.Toml.Table
import DeviceLink.Toml.Text
/-!
# TOML — documents

Reading a whole document: keys, values with their nesting, and the lines that
give a key its value or open a table. Arrays and inline tables nest to a fixed
depth, and no key has more parts than that.
-/

namespace DeviceLink

namespace Toml

/-- Arrays and inline tables nest less deep than this, and keys are shorter. -/
def depthLimit : Nat := 80

/-! ## Keys -/

/-- One part of a key. -/
def keyPart? (cs : List Char) : Option (String × List Char) :=
  match cs with
  | '"' :: r => (basic? r).map fun p => (String.ofList p.1, p.2)
  | '\'' :: r => (literal? r).map fun p => (String.ofList p.1, p.2)
  | _ =>
    let part := cs.takeWhile isBare
    if part.isEmpty then none else some (String.ofList part, cs.dropWhile isBare)

/-- The parts of a key, with blanks allowed around each. -/
def keyParts? : Nat → List Char → Option (List String × List Char)
  | 0, _ => none
  | fuel + 1, cs => do
    let (part, rest) ← keyPart? (cs.dropWhile isBlank)
    match rest.dropWhile isBlank with
    | '.' :: r => do
      let (parts, left) ← keyParts? fuel r
      return (part :: parts, left)
    | r => return ([part], r)

/-- A key: its path and its last part. -/
def key? (cs : List Char) : Option ((List String × String) × List Char) := do
  let (parts, rest) ← keyParts? (depthLimit - 1) cs
  let last ← parts.getLast?
  return ((parts.dropLast, last), rest)

/-! ## Values -/

/-- The items of an array after its opening bracket, or after a comma. -/
def arrayItems? (item? : List Char → Option (Datum × List Char)) :
    Nat → List Char → Option (List Datum × List Char)
  | 0, _ => none
  | fuel + 1, cs => do
    match ← gap? false cs with
    | ']' :: r => return ([], r)
    | start => do
      let (item, rest) ← item? start
      match ← gap? false rest with
      | ',' :: r => do
        let (items, left) ← arrayItems? item? fuel r
        return (item :: items, left)
      | ']' :: r => return ([item], r)
      | _ => none

/-- The entries of an inline table from a key on. -/
def inlineEntries? (item? : List Char → Option (Datum × List Char)) :
    Nat → Table → List Char → Option (Table × List Char)
  | 0, _, _ => none
  | fuel + 1, table, cs => do
    let ((path, key), rest) ← key? cs
    match rest with
    | '=' :: r => do
      let (value, rest) ← item? (r.dropWhile isBlank)
      let table ← table.insert? path key value
      match rest.dropWhile isBlank with
      | ',' :: r => inlineEntries? item? fuel table r
      | '\x7d' :: r => return (table, r)
      | _ => none
    | _ => none

/-- A value. The number bounds how deep it nests. -/
def value? : Nat → List Char → Option (Datum × List Char)
  | _, '"' :: r => (text? ('"' :: r)).map fun p => (.text (String.ofList p.1), p.2)
  | _, '\'' :: r => (text? ('\'' :: r)).map fun p => (.text (String.ofList p.1), p.2)
  | depth + 1, '[' :: r =>
    (arrayItems? (value? depth) (r.length + 1) r).map fun p => (.list p.1, p.2)
  | depth + 1, '\x7b' :: r =>
    match r.dropWhile isBlank with
    | '\x7d' :: s => some (.map [], s)
    | _ => (inlineEntries? (value? depth) (r.length + 1) {} r).map fun p => (p.1.toDatum, p.2)
  | _, cs => plain? cs

/-! ## Lines -/

/-- A line that gives a key its value. -/
def keyLine? (b : Builder) (cs : List Char) : Option (Builder × List Char) := do
  let ((path, key), rest) ← key? cs
  match rest with
  | '=' :: r => do
    let (value, rest) ← value? (depthLimit - 1) (r.dropWhile isBlank)
    let rest ← lineEnd? rest
    return (← b.insert? path key value, rest)
  | _ => none

/-- A line that opens a table, after its first bracket. -/
def headerLine? (b : Builder) (cs : List Char) : Option (Builder × List Char) :=
  match cs with
  | '[' :: r => do
    let ((path, key), rest) ← key? r
    match rest with
    | ']' :: ']' :: r => return (← b.repeatedHeader? (path ++ [key]), ← lineEnd? r)
    | _ => none
  | r => do
    let ((path, key), rest) ← key? r
    match rest with
    | ']' :: r => return (← b.header? (path ++ [key]), ← lineEnd? r)
    | _ => none

/-- All lines of a document. -/
def lines? : Nat → Builder → List Char → Option Builder
  | 0, _, _ => none
  | fuel + 1, b, cs =>
    match cs.dropWhile isBlank with
    | [] => some b
    | '[' :: r => do
      let (b, rest) ← headerLine? b r
      lines? fuel b rest
    | c :: r =>
      if c == '#' || c == '\n' || c == '\r' then do
        lines? fuel b (← lineEnd? (c :: r))
      else do
        let (b, rest) ← keyLine? b (c :: r)
        lines? fuel b rest

/-- The value a document is, unless it breaks a rule of the format. A mark of
the byte order at its start is passed over. -/
def parse? (text : String) : Option Datum := do
  let cs :=
    match text.toList with
    | '\ufeff' :: r => r
    | cs => cs
  let b ← lines? (cs.length + 1) {} cs
  return (← b.close?).toDatum

end Toml

end DeviceLink
