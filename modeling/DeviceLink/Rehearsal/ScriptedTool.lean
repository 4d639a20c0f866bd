import DeviceLink.Rehearsal.Recorder
/-!
# Rehearsals — a bridge tool that follows rules

A scripted tool notes the arguments it is run with and then does what the rule
for its verb says. A run that is an agent reaches the host as the rule says,
serves a video and exits when the host closes the control channel.
-/

namespace DeviceLink

namespace Rehearsal

namespace World

/-- What a list of arguments tells the tool to do, past the device's serial. -/
def verb (arguments : List String) : String :=
  let rest := match arguments with
    | "-s" :: _ :: rest => rest
    | rest => rest
  match rest with
  | name :: "--remove" :: _ => name ++ " --remove"
  | name :: _ => name
  | [] => ""

/-- The port a list of arguments names. -/
def namedPort? (arguments : List String) : Option Nat :=
  arguments.findSome? fun a =>
    match a.toList with
    | 't' :: 'c' :: 'p' :: ':' :: digits => Text.digits? digits
    | _ => none

/-- Note a run, with the port it maps, and give its rule. -/
def takeRun (arguments : List String) : StateM World Rule := do
  note (.tool arguments)
  let port := (namedPort? arguments).map UInt16.ofNat
  let v := verb arguments
  if v == "reverse" then update fun w => { w with reversed := port }
  if v == "forward" then update fun w => { w with forwarded := port }
  return (((← get).rules.find? (·.1 == v)).map (·.2)).getD (.exit 0)

/-- How a run that comes to an end by itself ends. -/
def statusOf (r : Rule) (arguments : List String) : ExitStatus :=
  match r with
  | .exit code => .code code
  | .signal number => .signal number
  | .hang => .signal 9
  | .failPorts ports => if (namedPort? arguments).any ports.contains then .code 1 else .code 0
  | .agent _ _ _ => .code 0

/-- Run the tool to its end. -/
def runTool (arguments : List String) : StateM World (Except IoError ExitStatus) := do
  match (← get).toolFault with
  | some e => return .error e
  | none => return .ok (statusOf (← takeRun arguments) arguments)

/-- Start an agent that connects to the host. -/
def connectingAgent (video : List UInt8) (ending : Ending) : StateM World ToolRun := do
  let some port := (← get).reversed | return { running := false }
  let .ok first ← dial port video | return { running := false }
  mapLink first fun l => { l with ending }
  let .ok second ← dial port [] | return { running := false, links := [first] }
  return { running := true, links := [first, second] }

/-- Start an agent that listens. -/
def listeningAgent (video : List UInt8) (ending : Ending) : StateM World ToolRun := do
  let some port := (← get).forwarded | return { running := false }
  match ← invite port { plan := [{ bytes := 0 :: video, ending }, {}] } with
  | some i => return { running := true, party := some i }
  | none => return { running := false }

/-- Start the tool. -/
def spawnTool (arguments : List String) : StateM World (Except IoError RunningAgent) := do
  match (← get).toolFault with
  | some e => return .error e
  | none =>
    let run ←
      match ← takeRun arguments with
      | .hang => pure { running := true }
      | .agent false video ending => connectingAgent video ending
      | .agent true video ending => listeningAgent video ending
      | _ => pure { running := false }
    let handle := (← get).runs.length
    update fun w => { w with runs := w.runs ++ [run] }
    return .ok ⟨handle, some pid⟩

/-- The connections a run serves. -/
def channelsOf (w : World) (r : ToolRun) : List Stream :=
  r.links ++ ((r.party.bind (w.parties[·]?)).elim [] (·.channels))

/-- Whether a run goes on: nobody closed its control channel. -/
def goesOn (w : World) (r : ToolRun) : Bool :=
  r.running && !((w.channelsOf r)[1]?).any fun s => (w.link s).hostClosed

/-- Change a run. -/
def mapRun (p : RunningAgent) (f : ToolRun → ToolRun) : StateM World Unit :=
  update fun w => { w with runs := w.runs.modify p.handle f }

/-- A run comes to its end: it listens no longer and closes what it serves. -/
def endRun (p : RunningAgent) : StateM World Unit := do
  let w ← get
  let some r := w.runs[p.handle]? | return
  (w.channelsOf r).forM fun s => mapLink s fun l =>
    if l.ending == .held then { l with ending := .closed } else l
  if let some i := r.party then mapParty i fun party => { party with listening := false }
  mapRun p fun r => { r with running := false, reaped := true }

/-- Wait for a run of the tool. -/
def toolEnd? (p : RunningAgent) : StateM World (Option (Except IoError Unit)) := do
  let w ← get
  match w.runs[p.handle]? with
  | some r =>
    if w.goesOn r then return none
    endRun p
    return some (.ok ())
  | none => return some (.ok ())

/-- Kill a run of the tool. -/
def killTool (p : RunningAgent) : StateM World (Except IoError Unit) := do
  endRun p
  return .ok ()

/-- Whether a run is still known to the system by its number. -/
def hasNumber (w : World) (p : RunningAgent) : Bool := (w.runs[p.handle]?).any (!·.reaped)

end World

/-- The scripted tool. -/
def tool : Tool World where
  run := World.runTool
  spawn := World.spawnTool

/-- What is at a path where the scripted tool is not: nothing that can be run. -/
def noTool (path : String) : Tool World :=
  let fault : StateM World IoError := do
    if !path.toList.contains '/' then return .notFound
    match (← get).files.look path with
    | .ok _ => return .permissionDenied
    | .error e => return e
  ⟨fun _ => return .error (← fault), fun _ => return .error (← fault)⟩

/-- The surroundings of a session whose bridge is a tool. -/
def withToolOf (t : Tool World) : Surroundings World :=
  { recording with
    bridge := t.bridge
    execute := t.execute World.report
    ended? := World.toolEnd?
    kill := World.killTool }

/-- The surroundings of a session whose bridge is the scripted tool. -/
def withTool : Surroundings World := withToolOf tool

end Rehearsal

end DeviceLink
