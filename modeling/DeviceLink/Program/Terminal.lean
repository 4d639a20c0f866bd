/-!
# Programs — what is shown on the terminal

A program writes results and faults on two channels. Its messages to a user
start with a coloured mark that tells good news from bad.
-/

namespace DeviceLink

/-- Where a program writes. -/
inductive Channel
  | results
  | faults
  deriving DecidableEq, Repr

/-- What kind of message is shown. -/
inductive Notice
  | success
  | failure
  | warning
  | hint
  deriving DecidableEq, Repr

namespace Notice

/-- The number of the mark's colour. -/
def colour : Notice → Nat
  | .success => 10
  | .failure => 9
  | .warning => 11
  | .hint => 14

/-- The mark a message starts with. -/
def mark : Notice → Char
  | .success => '✓'
  | .failure => '✗'
  | .warning => '⚠'
  | .hint => 'ℹ'

/-- Where a message of the kind is shown. -/
def channel : Notice → Channel
  | .success | .hint => .results
  | .failure | .warning => .faults

/-- A message with its coloured mark, as a line. -/
def line (n : Notice) (text : String) : String :=
  s!"\x1b[38;5;{n.colour}m{n.mark} \x1b[0m{text}\n"

end Notice

end DeviceLink
