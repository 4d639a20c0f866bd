import DeviceLink.CommandLine.Usage
/-!
# Command lines — options, flags, positions and subcommands

A grammar says what one command takes, and what each thing it takes does to
the settings that are being read; `parse` reads a list of arguments against
it. An option's value is looked at when the next thing is read, so of two
faults the one further left is told, except that an argument nobody knows is
told before a fault in the value just before it.
-/

namespace DeviceLink

namespace CommandLine

/-- Why a value does not fit. -/
inductive ValueFault
  /-- It counts as none. -/
  | absent
  /-- It is no value of the option; the text says why. -/
  | unfit (reason : String)
  deriving DecidableEq, Repr

/-- What an option does to the settings. -/
inductive Effect (α : Type)
  /-- A flag, given at most once. -/
  | mark (set : α → α)
  /-- A flag that may be given many times. -/
  | count (add : α → α)
  /-- An option with a value. Its placeholder names the value, and a value with
  a leading minus sign is taken only if `negatives` and it is a number. -/
  | value (placeholder : String) (negatives : Bool) (read : String → α → Except ValueFault α)
  /-- Help is shown instead. -/
  | help
  /-- The version is shown instead. -/
  | version

/-- An option by its long name and perhaps a letter. -/
structure Switch (α : Type) where
  long : String
  letter : Option Char
  effect : Effect α

/-- What one command takes. -/
structure Grammar (α : Type) where
  /-- The command's name, after those of the commands it belongs to. -/
  program : String
  /-- What the command is for. -/
  purpose : String
  options : List (Switch α) := []
  /-- What its positions do, in order. All of them are required. -/
  positions : List (String → α → α) := []
  /-- The commands that belong to it. If there are any, one is required. -/
  subcommands : List String := []

namespace Switch

/-- How the option is told. -/
def name (o : Switch α) : String :=
  match o.effect with
  | .value placeholder _ _ => s!"--{o.long} <{placeholder}>"
  | _ => s!"--{o.long}"

/-- Whether a value with a leading minus sign is taken if it is a number. -/
def takesNegatives (o : Switch α) : Bool :=
  match o.effect with
  | .value _ negatives _ => negatives
  | _ => false

end Switch

/-- What is known after some of the arguments. -/
structure Reading (α : Type) where
  settings : α
  /-- The long names of the options seen so far. -/
  seen : List String := []
  /-- The last option with its value, if it has been given one. -/
  pending : Option (Switch α × Option String) := none
  /-- How many positions are filled. -/
  filled : Nat := 0
  /-- Whether only positions can follow. -/
  onlyPositions : Bool := false

/-- How reading one command's arguments ends. -/
inductive Outcome (α : Type)
  /-- All arguments are read. -/
  | done (reading : Reading α)
  /-- A subcommand takes the rest. -/
  | enter (name : String) (rest : List String) (reading : Reading α)

namespace Reading

variable {α : Type}

/-- Apply an option that was given, with its value if it takes one. -/
def apply (r : Reading α) (g : Grammar α) (o : Switch α) (value : Option String) :
    Except UsageError (Reading α) :=
  let once (r : Reading α) : Except UsageError (Reading α) :=
    if r.seen.contains o.long then .error (.repeated o.name)
    else .ok { r with seen := o.long :: r.seen }
  match o.effect, value with
  | .mark set, _ => do
    let r ← once r
    return { r with settings := set r.settings }
  | .count add, _ =>
    .ok { r with settings := add r.settings, seen := o.long :: r.seen }
  | .value _ _ _, none => .error (.missingValue o.name)
  | .value _ _ read, some text => do
    let r ← once r
    match read text r.settings with
    | .ok settings => return { r with settings := settings }
    | .error .absent => .error (.missingValue o.name)
    | .error (.unfit reason) => .error (.invalidValue text o.name reason)
  | .help, _ => .error (.help g.purpose)
  | .version, _ => .error (.version g.program)

/-- Apply the last option, which no longer waits for a value. -/
def settle (r : Reading α) (g : Grammar α) : Except UsageError (Reading α) :=
  match r.pending with
  | none => .ok r
  | some (o, value) => { r with pending := none }.apply g o value

/-- Take an option that was given: a flag acts at once, and one with a value
does when the next thing is read, unless the value is `attached`. -/
def take (r : Reading α) (g : Grammar α) (o : Switch α) (attached : Option String) :
    Except UsageError (Reading α) := do
  let r ← r.settle g
  match o.effect, attached with
  | .value _ _ _, none => return { r with pending := some (o, none) }
  | _, _ => r.apply g o attached

/-- Take an option by its long name. -/
def takeLong (r : Reading α) (g : Grammar α) (cs : List Char) : Except UsageError (Reading α) :=
  let long := String.ofList (cs.takeWhile (· ≠ '='))
  let attached : Option String :=
    match cs.dropWhile (· ≠ '=') with
    | [] => none
    | _ :: value => some (String.ofList value)
  match g.options.find? (·.long == long) with
  | none => .error (.unknownArgument ("--" ++ long))
  | some o =>
    match o.effect, attached with
    | .value _ _ _, _ => r.take g o attached
    | _, none => r.take g o none
    | _, some value => .error (.unexpectedValue value o.name)

/-- Take options by their letters. What follows the letter of an option with a
value is the value, an equals sign before it aside. -/
def takeLetters (g : Grammar α) : List Char → Reading α → Except UsageError (Reading α)
  | [], r => .ok r
  | c :: cs, r =>
    match g.options.find? (·.letter == some c) with
    | none => .error (.unknownArgument (String.ofList ['-', c]))
    | some o =>
      match o.effect with
      | .value _ _ _ =>
        r.take g o
          (match cs with
          | [] => none
          | '=' :: value => some (String.ofList value)
          | value => some (String.ofList value))
      | _ => do takeLetters g cs (← r.take g o none)

/-- Fill the next position. -/
def takePosition (r : Reading α) (g : Grammar α) (text : String) :
    Except UsageError (Reading α) :=
  match g.positions[r.filled]? with
  | some set => do
    let r ← r.settle g
    return { r with settings := set text r.settings, filled := r.filled + 1 }
  | none =>
    if g.subcommands ≠ [] ∧ ¬ (r.onlyPositions ∧ g.subcommands.contains text) then
      .error (.unknownSubcommand text)
    else .error (.unknownArgument text)

end Reading

/-- Whether what follows a minus sign makes it a number: digits with at most
one point and one exponent mark, neither of them first and the mark not last. -/
def isNumber (cs : List Char) : Bool :=
  go false false true cs
where
  /-- `point` and `mark` tell what was seen, `first` where the reader is. -/
  go (point mark first : Bool) : List Char → Bool
    | [] => true
    | c :: cs =>
      if c.isDigit then go point mark false cs
      else if c == '.' && !point && !mark && !first then go true mark false cs
      else if c == 'e' && !mark && !first then !cs.isEmpty && go point true false cs
      else false

/-- Read the arguments of one command, up to a subcommand if it has any. -/
def scan (g : Grammar α) : List String → Reading α → Except UsageError (Outcome α)
  | [], r => .ok (.done r)
  | arg :: rest, r =>
    let waiting :=
      match r.pending with
      | some (o, none) => some o
      | _ => none
    if r.onlyPositions then do scan g rest (← r.takePosition g arg)
    else if waiting.isNone ∧ g.subcommands.contains arg then .ok (.enter arg rest r)
    else
      let plain : Except UsageError (Reading α) :=
        match waiting with
        | some o => .ok { r with pending := some (o, some arg) }
        | none => r.takePosition g arg
      match arg.toList with
      | ['-'] => do scan g rest (← plain)
      | ['-', '-'] => scan g rest { r with onlyPositions := true }
      | '-' :: '-' :: cs => do scan g rest (← r.takeLong g cs)
      | '-' :: cs =>
        if isNumber cs && waiting.any Switch.takesNegatives then do scan g rest (← plain)
        else do scan g rest (← Reading.takeLetters g cs r)
      | _ => do scan g rest (← plain)

/-- The settings after all arguments of a command without subcommands. -/
def Reading.finish (r : Reading α) (g : Grammar α) : Except UsageError α := do
  let r ← r.settle g
  if g.subcommands ≠ [] then
    .error (if r.seen.isEmpty then .nothingGiven g.purpose else .missingSubcommand g.program)
  else if r.filled < g.positions.length then .error .missingArgument
  else .ok r.settings

/-- Read all arguments of a command without subcommands. -/
def parse (g : Grammar α) (args : List String) (standard : α) : Except UsageError α := do
  match ← scan g args { settings := standard } with
  | .done r => r.finish g
  | .enter name _ _ => .error (.unknownSubcommand name)

end CommandLine

end DeviceLink
