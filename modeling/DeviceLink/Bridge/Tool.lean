import DeviceLink.Surroundings
/-!
# The bridge — run as a program

The bridge tool is a program that is started once for each command. A command
succeeds when the program exits with zero; an agent is the same program left
running, whose exit status says nothing.
-/

namespace DeviceLink

/-- How a program ended. -/
inductive ExitStatus
  | code (value : Nat)
  | signal (number : Nat)
  deriving DecidableEq, Repr

namespace ExitStatus

/-- Whether the program reports success. -/
def isSuccess (s : ExitStatus) : Bool := s == .code 0

/-- The code the program exited with; none if a signal ended it. -/
def code? : ExitStatus → Option Int
  | .code value => some value
  | .signal _ => none

end ExitStatus

/-- A program that can be run with a list of arguments. -/
structure Tool (σ : Type) where
  /-- Run the program to its end. -/
  run : List String → StateM σ (Except IoError ExitStatus)
  /-- Start the program and leave it running. -/
  spawn : List String → StateM σ (Except IoError RunningAgent)

namespace Tool

variable {σ : Type} (T : Tool σ)

/-- Whether an argument cannot be handed to a program. -/
def holdsNul (arguments : List String) : Bool := arguments.any (·.toList.contains '\x00')

/-- Carry a command out for a device. -/
def bridge (serial : Option String) (c : BridgeCommand) :
    StateM σ (Except BridgeError Unit) := do
  let arguments := BridgeCommand.forDevice serial c.arguments
  if holdsNul arguments then return .error (.spawn c.label .nulInArgument)
  match ← T.run arguments with
  | .error e => return .error (.spawn c.label e)
  | .ok status =>
    if status.isSuccess then return .ok ()
    else return .error (.failed c.label status.code?)

/-- Run something on a device in the background. -/
def execute (report : Report → StateM σ Unit) (serial : Option String) (args : List String) :
    StateM σ (Except BridgeError RunningAgent) := do
  let label := BridgeCommand.executeLabel
  let arguments := BridgeCommand.forDevice serial args
  if holdsNul arguments then return .error (.spawn label .nulInArgument)
  match ← T.spawn arguments with
  | .error e => return .error (.spawn label e)
  | .ok process =>
    report ⟨.info, s!"Spawned remote agent through adb (pid {RunningAgent.pidText process.pid})"⟩
    return .ok process

end Tool

end DeviceLink
