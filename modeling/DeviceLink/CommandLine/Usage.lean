/-!
# Command lines — what is wrong with one

A command line that does not fit its grammar, or asks for help instead. Each
fault is told in one line.
-/

namespace DeviceLink

namespace CommandLine

/-- Why a command line is not carried out. -/
inductive UsageError
  /-- Nothing of that name is known here. -/
  | unknownArgument (text : String)
  /-- Nothing follows an option that takes a value, or nothing that counts. -/
  | missingValue (option : String)
  /-- An option is given twice. -/
  | repeated (option : String)
  /-- A flag is given a value. -/
  | unexpectedValue (value option : String)
  /-- A value does not fit its option. -/
  | invalidValue (value option reason : String)
  /-- There is no such subcommand. -/
  | unknownSubcommand (text : String)
  /-- A required argument is absent. -/
  | missingArgument
  /-- A subcommand is required, and something else was given. -/
  | missingSubcommand (program : String)
  /-- Nothing was given where a subcommand is required; told by the purpose. -/
  | nothingGiven (purpose : String)
  /-- Help was asked for. -/
  | help (purpose : String)
  /-- The version was asked for. -/
  | version (program : String)
  deriving DecidableEq, Repr

namespace UsageError

/-- The version the program tells. -/
def programVersion : String := "0.1.0"

/-- How a command tells its version: its names with hyphens between them. -/
def versionText (program : String) : String :=
  let hyphen (c : Char) : Char := if c = ' ' then '-' else c
  s!"{String.ofList (program.toList.map hyphen)} {programVersion}"

/-- How the fault is told in one line. -/
def message : UsageError → String
  | .unknownArgument text => s!"error: unexpected argument '{text}' found"
  | .missingValue option => s!"error: a value is required for '{option}' but none was supplied"
  | .repeated option => s!"error: the argument '{option}' cannot be used multiple times"
  | .unexpectedValue value option =>
    s!"error: unexpected value '{value}' for '{option}' found; no more were expected"
  | .invalidValue value option reason => s!"error: invalid value '{value}' for '{option}': {reason}"
  | .unknownSubcommand text => s!"error: unrecognized subcommand '{text}'"
  | .missingArgument => "error: the following required arguments were not provided:"
  | .missingSubcommand program =>
    s!"error: '{program}' requires a subcommand but one was not provided"
  | .nothingGiven purpose => purpose
  | .help purpose => purpose
  | .version program => versionText program

/-- Whether the user got what was asked for. -/
def isAnswer : UsageError → Bool
  | .help _ => true
  | .version _ => true
  | _ => false

end UsageError

end CommandLine

end DeviceLink
