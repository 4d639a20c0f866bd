import DeviceLink.RunOptions
/-!
# Programs — what the program is told to do

The program has a command that runs a session and commands for the
configuration file. Some options may be given at any of the commands on the
way to the one that is meant; given at several of them, the last one counts.
-/

namespace DeviceLink

open CommandLine

/-! ## Options of every command -/

/-- The options every command takes. -/
structure SharedOptions where
  /-- The configuration file. -/
  file : Option String := none
  /-- How often more reports were asked for. -/
  verbosity : Option Nat := none
  /-- Only failures are reported. -/
  quiet : Bool := false
  deriving DecidableEq, Repr

namespace SharedOptions

/-- The options of a command with those of the command it belongs to. -/
def within (inner outer : SharedOptions) : SharedOptions :=
  ⟨inner.file.or outer.file, inner.verbosity.or outer.verbosity, inner.quiet || outer.quiet⟩

/-- What each option does. -/
def switches : List (Switch SharedOptions) :=
  [ ⟨"config", some 'c',
      .value "CONFIG" false fun text o =>
        if text = "" then .error .absent else .ok { o with file := some text }⟩,
    ⟨"verbose", some 'v', .count fun o => { o with verbosity := some (o.verbosity.getD 0 + 1) }⟩,
    ⟨"quiet", some 'q', .mark fun o => { o with quiet := true }⟩,
    RunOptions.helpSwitch,
    ⟨"version", some 'V', .version⟩ ]

end SharedOptions

namespace CommandLine

variable {α β : Type}

/-- What an option does to a part of the settings. -/
def Effect.onPart (part : β → α) (put : α → β → β) : Effect α → Effect β
  | .mark set => .mark fun b => put (set (part b)) b
  | .count add => .count fun b => put (add (part b)) b
  | .value placeholder negatives read =>
    .value placeholder negatives fun text b => (read text (part b)).map (put · b)
  | .help => .help
  | .version => .version

/-- An option for the first of two settings. -/
def Switch.onFirst (o : Switch α) : Switch (α × β) :=
  ⟨o.long, o.letter, o.effect.onPart (·.1) fun a s => (a, s.2)⟩

/-- An option for the second of two settings. -/
def Switch.onSecond (o : Switch β) : Switch (α × β) :=
  ⟨o.long, o.letter, o.effect.onPart (·.2) fun b s => (s.1, b)⟩

end CommandLine

/-! ## Commands -/

/-- What the program can be told to do. -/
inductive Action
  /-- Run a session. -/
  | run (options : RunOptions)
  /-- Show the configuration file. -/
  | showFile
  /-- Show one value of the configuration. -/
  | showValue (key : String)
  /-- Write a configuration file, in place of another one if `force`. -/
  | writeFile (force : Bool)
  /-- Show where the configuration file is. -/
  | showPath
  deriving DecidableEq

/-- What the program is told. -/
structure Invocation where
  shared : SharedOptions
  action : Action
  deriving DecidableEq

namespace Invocation

/-- The program's name. -/
def program : String := "devtether"

/-- What the program is for. -/
def purpose : String := "Tethered device connection tool"

/-- The grammar of the program up to a command. -/
def top : Grammar (SharedOptions × Unit) :=
  { program, purpose
    options := SharedOptions.switches.map (·.onFirst)
    subcommands := ["run", "config", "help"] }

/-- The grammar of the command that runs a session. -/
def run : Grammar (SharedOptions × RunOptions) :=
  { program := s!"{program} run", purpose := RunOptions.purpose
    options := RunOptions.switches.map (·.onSecond) ++ SharedOptions.switches.map (·.onFirst) }

/-- What the commands for the configuration file are for, by their names. -/
def filePurposes : List (String × String) :=
  [ ("show", "Show current configuration"), ("get", "Get specific config value"),
    ("init", "Write the default configuration"), ("path", "Show config file path") ]

/-- The grammar of those commands up to one of them. -/
def file : Grammar (SharedOptions × Unit) :=
  { program := s!"{program} config", purpose := "Manage configuration"
    options := SharedOptions.switches.map (·.onFirst)
    subcommands := filePurposes.map (·.1) ++ ["help"] }

/-- What one of those commands does when nothing more is said. -/
def fileAction : String → Action
  | "get" => .showValue ""
  | "init" => .writeFile false
  | "path" => .showPath
  | _ => .showFile

/-- The grammar of one of those commands. -/
def fileCommand (name : String) : Grammar (SharedOptions × Action) :=
  let force : Switch (SharedOptions × Action) :=
    ⟨"force", some 'f', .mark fun s => (s.1, .writeFile true)⟩
  { program := s!"{program} config {name}"
    purpose := (filePurposes.lookup name).getD ""
    options := (if name = "init" then [force] else []) ++
      SharedOptions.switches.map (·.onFirst)
    positions := if name = "get" then [fun key s => (s.1, .showValue key)] else [] }

/-! ## Reading -/

/-- Help for one of the commands for the configuration file. -/
def fileHelp : List String → UsageError
  | [] => .help file.purpose
  | [name] =>
    match filePurposes.lookup name with
    | some purpose => .help purpose
    | none => if name = "help" then .help file.purpose else .unknownSubcommand name
  | name :: next :: _ =>
    .unknownSubcommand (if file.subcommands.contains name then next else name)

/-- Help for a command. -/
def help : List String → UsageError
  | [] => .help purpose
  | "run" :: rest => rest.head?.elim (.help run.purpose) .unknownSubcommand
  | "help" :: rest => rest.head?.elim (.help purpose) .unknownSubcommand
  | "config" :: rest => fileHelp rest
  | name :: _ => .unknownSubcommand name

/-- Read up to a subcommand and have the rest read. What is wrong in the rest
is told first. -/
def readWith (g : Grammar (SharedOptions × Unit)) (args : List String)
    (inner : String → List String → Except UsageError Invocation) :
    Except UsageError Invocation := do
  match ← scan g args { settings := ({}, ()) } with
  | .done r =>
    match r.finish g with
    | .error e => .error e
    | .ok _ => .error (.missingSubcommand g.program)
  | .enter name rest r =>
    let i ← inner name rest
    let r ← r.settle g
    return { i with shared := i.shared.within r.settings.1 }

/-- Read a command for the configuration file. -/
def readFile (args : List String) : Except UsageError Invocation :=
  readWith file args fun name rest =>
    if name = "help" then .error (fileHelp rest)
    else (CommandLine.parse (fileCommand name) rest ({}, fileAction name)).map
      fun s => ⟨s.1, s.2⟩

/-- Read what the program is told; the environment may name the device. -/
def parse (args : List String) (serial : Option String) : Except UsageError Invocation :=
  readWith top args fun name rest =>
    if name = "help" then .error (help rest)
    else if name = "config" then readFile rest
    else (CommandLine.parse run rest ({}, {})).map
      fun s => ⟨s.1, .run (s.2.withEnvironment serial)⟩

end Invocation

end DeviceLink
