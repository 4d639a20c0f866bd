import DeviceLink.Datum
/-!
# TOML — printing

Values written so that a reader of the format gets them back. A text takes the
first of its written forms that shows it without escapes where one does: double
quotes, single quotes, either over several lines; else it is escaped. Tables
become sections: the plain entries of a table first, then a headed section for
each table in it, with an empty line between two sections.
-/

namespace DeviceLink

namespace Toml

/-! ## Which form a text takes -/

/-- Characters that are never written as themselves. -/
def isControl (c : Char) : Bool :=
  (c.toNat ≤ 0x1f && c != '\t' && c != '\n') || c.toNat == 0x7f

/-- The longest run of one character. -/
def longestRun (q : Char) (cs : List Char) : Nat :=
  (cs.foldl (fun (best, here) c =>
    if c == q then (max best (here + 1), here + 1) else (best, 0)) (0, 0)).1

/-- How a text is written. -/
inductive TextForm
  /-- Between double quotes, with escapes. -/
  | basic
  /-- Between single quotes. -/
  | literal
  /-- Between three double quotes, with escapes. -/
  | basicLines
  /-- Between three single quotes. -/
  | literalLines
  deriving DecidableEq, Repr

/-- The form a text takes. -/
def TextForm.of (cs : List Char) : TextForm :=
  let control := cs.any isControl
  let escape := cs.contains '\\'
  let newline := cs.contains '\n'
  if !control && !escape && !cs.contains '"' && !newline then .basic
  else if !control && !cs.contains '\'' && !newline then .literal
  else if !control && !escape && longestRun '"' cs ≤ 2 then .basicLines
  else if !control && longestRun '\'' cs ≤ 2 then .literalLines
  else if newline then .basicLines
  else .basic

/-! ## Escapes -/

/-- A hexadecimal digit, in upper case. -/
def upperHex (d : Nat) : Char :=
  if d < 10 then Char.ofNat (0x30 + d) else Char.ofNat (0x41 + (d - 10))

/-- A character written as an escape. -/
def escapeChar (c : Char) : List Char :=
  if c = '\x08' then ['\\', 'b']
  else if c = '\t' then ['\\', 't']
  else if c = '\n' then ['\\', 'n']
  else if c = '\x0c' then ['\\', 'f']
  else if c = '\r' then ['\\', 'r']
  else if c = '"' then ['\\', '"']
  else if c = '\\' then ['\\', '\\']
  else ['\\', 'u', '0', '0', upperHex (c.toNat / 16 % 16), upperHex (c.toNat % 16)]

/-- Whether a character is escaped wherever it stands. -/
def isEscaped (lines : Bool) (c : Char) : Bool :=
  c == '\t' || c == '\\' || isControl c || (c == '\n' && !lines)

/-- The characters of a text with escapes. Over several lines two quotes in a
row may stand; `run` counts those before here. -/
def escaped (lines : Bool) : Nat → List Char → List Char
  | _, [] => []
  | run, c :: cs =>
    if c = '"' then
      if lines && run < 2 then c :: escaped lines (run + 1) cs
      else escapeChar c ++ escaped lines 0 cs
    else if isEscaped lines c then escapeChar c ++ escaped lines 0 cs
    else c :: escaped lines 0 cs

/-! ## Values -/

/-- A text between its quotes. Over several lines the first line end is put
right after the quotes, where it is not part of the text. -/
def writeText (cs : List Char) : List Char :=
  let opening := if cs.contains '\n' then ['\n'] else []
  match TextForm.of cs with
  | .basic => '"' :: escaped false 0 cs ++ ['"']
  | .literal => '\'' :: cs ++ ['\'']
  | .basicLines => ['"', '"', '"'] ++ opening ++ escaped true 0 cs ++ ['"', '"', '"']
  | .literalLines => ['\'', '\'', '\''] ++ opening ++ cs ++ ['\'', '\'', '\'']

/-- A text, an integer or a truth value. -/
def writeValue? : Datum → Option (List Char)
  | .text s => some (writeText s.toList)
  | .int n => some (toString n).toList
  | .bool true => some ['t', 'r', 'u', 'e']
  | .bool false => some ['f', 'a', 'l', 's', 'e']
  | _ => none

/-! ## Tables -/

/-- The lines of a table's plain entries. -/
def writeLines : List (String × Datum) → List Char
  | [] => []
  | (key, d) :: rest =>
    match writeValue? d with
    | some text => key.toList ++ [' ', '=', ' '] ++ text ++ '\n' :: writeLines rest
    | none => writeLines rest

/-- The sections of the tables in a table. -/
def writeSections : List (String × Datum) → List (List Char)
  | [] => []
  | (key, .map entries) :: rest =>
    (('[' :: key.toList ++ [']', '\n']) ++ writeLines entries) :: writeSections rest
  | _ :: rest => writeSections rest

/-- Sections with an empty line between two of them. -/
def joinSections : List (List Char) → List Char
  | [] => []
  | [s] => s
  | s :: rest => s ++ '\n' :: joinSections rest

/-- A table as a document. -/
def print (entries : List (String × Datum)) : String :=
  let plain := writeLines entries
  String.ofList
    (joinSections ((if plain.isEmpty then [] else [plain]) ++ writeSections entries))

end Toml

end DeviceLink
