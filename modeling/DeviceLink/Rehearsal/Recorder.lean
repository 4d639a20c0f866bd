import DeviceLink.Rehearsal.World
/-!
# Rehearsals — a bridge that records

A recording bridge runs nothing. It keeps what it is told, fails where its
behavior says so, and plays an agent that reaches the host over the network: a
reverse agent connects twice to the port mapped last, a forward one listens on
it. Its processes exit as the behavior says, or when they are killed.
-/

namespace DeviceLink

namespace Rehearsal

namespace World

/-- What an agent played by the bridge writes on the video channel. -/
def videoMarker : UInt8 := 0x56

/-- What it writes on the control channel. -/
def controlMarker : UInt8 := 0x43

/-- The failure of a recording bridge. -/
def recorderFailure (label : String) : BridgeError := .failed label (some 1)

/-- A failure the script adds. -/
def scriptedFailure (kind : FailureKind) (label : String) : BridgeError :=
  match kind with
  | .code => .failed label (some 255)
  | .signal => .failed label none
  | .spawn => .spawn label .notFound

/-- Tell a recording bridge a command. -/
def record (serial : Option String) (c : BridgeCommand) :
    StateM World (Except BridgeError Unit) := do
  note (.command serial c)
  let b := (← get).behavior
  let scripted (fails : Bool) : Except BridgeError Unit :=
    if fails then .error (scriptedFailure b.failure c.label) else .ok ()
  match c with
  | .push _ _ => return if b.failPush then .error (recorderFailure c.label) else .ok ()
  | .reverse _ port =>
    if b.failReverse then return .error (recorderFailure c.label)
    update fun w => { w with reversed := some port }
    return scripted (b.failReversePorts.contains port)
  | .reverseRemove _ =>
    update fun w => { w with reversed := none }
    return scripted b.failReverseRemove
  | .forward port _ =>
    if b.failForwardPorts.contains port then return .error (recorderFailure c.label)
    update fun w => { w with forwarded := some port }
    return .ok ()
  | .forwardRemove _ => return scripted b.failForwardRemove

/-- Play the agent. -/
def playAgent : StateM World Unit := do
  let w ← get
  match w.behavior.agent, w.reversed, w.forwarded with
  | .reverse, some port, _ =>
    if let .ok _ ← dial port [videoMarker] then discard (dial port [controlMarker])
  | .forward, _, some port =>
    discard (invite port
      { plan := [{ bytes := [0, videoMarker] }, { bytes := [controlMarker] }]
        goesWhenDone := true })
  | _, _, _ => pure ()

/-- Have a recording bridge run an agent. -/
def recordExecute (serial : Option String) (arguments : List String) :
    StateM World (Except BridgeError RunningAgent) := do
  note (.execute serial arguments)
  let w ← get
  if w.behavior.failExecute then return .error (recorderFailure BridgeCommand.executeLabel)
  playAgent
  update fun w => { w with spawned := w.spawned + 1 }
  return .ok ⟨w.spawned, none⟩

/-- The scripted outcome of something done to a process. -/
def outcome (fails : Bool) (text : String) : Except IoError Unit :=
  if fails then .error (.told text) else .ok ()

/-- Wait for a process of a recording bridge. -/
def recordedEnd? (p : RunningAgent) : StateM World (Option (Except IoError Unit)) := do
  let w ← get
  let result := outcome w.behavior.waitError "scripted wait failure"
  if w.killed.contains p.handle then return some result
  match w.behavior.exit with
  | .immediately => return some result
  | .whenKilled => return none
  | .onTrigger =>
    if w.permit then
      update fun w => { w with permit := false }
      return some result
    else return none

/-- Kill a process of a recording bridge. -/
def recordKill (p : RunningAgent) : StateM World (Except IoError Unit) := do
  update fun w => { w with kills := w.kills + 1, killed := p.handle :: w.killed }
  return outcome (← get).behavior.killError "scripted kill failure"

end World

/-- The surroundings of a session whose bridge records. -/
def recording : Surroundings World where
  report := World.report
  isFile path := do
    match (← get).files.look path with
    | .ok (.file _) => return true
    | _ => return false
  bridge := World.record
  execute := World.recordExecute
  ended? := World.recordedEnd?
  kill := World.recordKill
  get := World.request
  listen := World.listen
  arrival? port := return (← World.arrival? port).map .ok
  unlisten := World.unlisten
  connect := World.connect
  readByte? := World.readByte?
  drain? := World.drain?
  close s := World.closeLinks [s]
  next? := World.next?
  sleep := World.sleep
  horizon w := w.pending.length

end Rehearsal

end DeviceLink
