import DeviceLink.Locations
import DeviceLink.Program.Invocation
import DeviceLink.Program.Run
import DeviceLink.Program.Settings
/-!
# Programs — from arguments to an exit status

The program reads its arguments, sets up what is reported and carries out what
it was told. It exits with zero after success, with one after a failure, which
it tells, and with two when its arguments do not fit.
-/

namespace DeviceLink

namespace Program

variable {σ : Type} (D : Desk σ) (env : Environment)

/-- The environment variable that says what is reported. -/
def filterVariable : String := "RUST_LOG"

/-- The configuration file used when none is named. -/
def standardFile : String :=
  Locations.configurationFile (env.value? "XDG_CONFIG_HOME") (env.value? "HOME") env.accountHome

/-- Set up what is reported: what the environment says, or else the reports
from a level on. -/
def setUpReports (level : LogLevel) : StateM σ Unit := do
  match (env.value? filterVariable).map LogFilter.directives with
  | none => D.listenTo (.atLeast level)
  | some ds =>
    (LogFilter.strays ds).forM fun text =>
      D.present .faults s!"ignoring `{text}`: invalid filter directive\n"
    D.listenTo (.ofDirectives ds)

/-- The configuration a session is run with. A file that was named has to
load; without one the standard file is used if it can be, and what is wrong
with it is given to be told later. -/
def configurationFor (named : Option String) :
    StateM σ (Except Failure (Configuration × Option String)) := do
  match named with
  | some path =>
    match ← load D path with
    | .ok c => return .ok (c, none)
    | .error e => return .error (loadFailure path e)
  | none =>
    let path := standardFile env
    if (← D.files).contains path then
      match ← load D path with
      | .ok c => return .ok (c, none)
      | .error e =>
        let f := loadFailure path e
        return .ok ({}, some s!"{f.context}: {f.causes.headD e.message}")
    else return .ok ({}, none)

/-- The level from which a run reports. -/
def levelFor (shared : SharedOptions) (o : RunOptions) (c : Configuration) : LogLevel :=
  if shared.quiet then .error
  else if 0 < shared.verbosity.getD 0 then .debug
  else o.logLevel.getD c.server.logLevel

/-- Run a session as the arguments say. -/
def run (shared : SharedOptions) (o : RunOptions) : StateM σ (Except (Halt Failure) Unit) := do
  match ← configurationFor D env shared.file with
  | .error f => return .error (.failed f)
  | .ok (c, complaint) =>
    setUpReports D env (levelFor shared o c)
    let tool := Locations.adbProgram (env.value? Locations.adbVariable) c.bridge
    let S := D.surroundings tool
    if let some text := complaint then S.warn text
    S.debug s!"Using bridge tool: {tool}"
    let files ← D.files
    let artifact := Locations.artifact (env.value? Locations.artifactVariable) c.bridge
      env.programDirectory files.isFile
    let (r, _, w) := (session D S artifact o.serial (o.apply c.server)).run ({}, ← get)
    set w
    return r

/-- Carry out what the program is told. -/
def carryOut (i : Invocation) : StateM σ (Except (Halt Failure) Unit) := do
  let path := i.shared.file.getD (standardFile env)
  let file (command : StateM σ (Except Failure Unit)) : StateM σ (Except (Halt Failure) Unit) := do
    setUpReports D env (if i.shared.quiet then .error else .warn)
    return (← command).mapError .failed
  match i.action with
  | .run o => run D env i.shared o
  | .showFile => file (showFile D path)
  | .showValue key => file (showValue D path key)
  | .writeFile force => file (writeFile D path force)
  | .showPath => file (do D.result path; return .ok ())

/-- The whole program; gives the exit status. A run that would wait for ever
is ended by the user. -/
def execute (args : List String) : StateM σ UInt8 := do
  match Invocation.parse args (env.value? RunOptions.serialVariable) with
  | .error e =>
    D.present (if e.isAnswer then .results else .faults) (e.message ++ "\n")
    return if e.isAnswer then 0 else 2
  | .ok i =>
    match ← carryOut D env i with
    | .ok () => return 0
    | .error .stuck => return 130
    | .error (.failed f) =>
      D.present .faults f.report
      return 1

end Program

end DeviceLink
