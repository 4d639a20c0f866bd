import DeviceLink.Activation
import DeviceLink.Connection
import DeviceLink.Tunnel
/-!
# Sessions — starting, connecting and stopping

A session activates an agent, through the bridge or by a request, connects its
two channels to it and takes everything down again. A start that fails leaves
the session as it was; a connect that fails leaves it started, so that it can
be tried again; a stop never fails, and what goes wrong in it is only told.
-/

namespace DeviceLink

/-- A session with one agent. -/
structure Session where
  phase : Phase := .idle
  /-- The device's serial, none for the only device. -/
  serial : Option String := none
  portRange : PortRange := .standard
  /-- The endpoint that activated the agent, in direct mode. -/
  activator : Option Activator := none
  tunnel : Option Tunnel := none
  /-- Whether the tunnel's mapping is still in place. -/
  tunnelEnabled : Bool := false
  /-- What is shared with the watcher of the agent's process. -/
  vigil : Vigil := {}
  video : Option Stream := none
  control : Option Stream := none

namespace Session

/-- How long an agent may take to exit before it is killed, in milliseconds. -/
def watchdogDelay : Nat := 1000

/-- The local port of the tunnel. -/
def localPort (s : Session) : Option Port := s.tunnel.map (·.localPort)

/-- The direction of the tunnel. -/
def direction (s : Session) : Option Direction := s.tunnel.map (·.direction)

/-- Whether the agent was activated by a request. -/
def isDirect (s : Session) : Bool := s.activator.isSome

/-- The host of an agent activated by a request. -/
def remoteHost (s : Session) : Option String := s.activator.map (·.hostName)

/-- A call on a session: it changes the session and its surroundings, also when
it fails. -/
abbrev Call (σ α : Type) := ExceptT (Halt SessionError) (StateM (Session × σ)) α

variable {σ : Type} (S : Surroundings σ)

/-! ## Parts of a call -/

/-- An act on the surroundings alone. -/
def outside {α : Type} (act : StateM σ α) : Call σ α := fun (s, w) =>
  let (a, w) := act w
  (.ok a, s, w)

/-- Wait for something with the watcher at work. -/
def waiting {α : Type} (act : StateM (Vigil × σ) (Option α)) : Call σ α := fun (s, w) =>
  let (a, v, w) := act (s.vigil, w)
  (a.elim (.error .stuck) .ok, { s with vigil := v }, w)

/-- An attempt to connect. -/
def attempt {α : Type} (act : Connection.Attempt σ α) : Call σ α := fun (s, w) =>
  let (a, v, w) := act (s.vigil, w)
  (a, { s with vigil := v }, w)

/-- The session as it stands. -/
def current : Call σ Session := fun (s, w) => (.ok s, s, w)

/-- Change the session. -/
def update (f : Session → Session) : Call σ Unit := fun (s, w) => (.ok (), f s, w)

/-- Fail for a cause. -/
def fail {α : Type} (cause : SessionError) : Call σ α := throw (.failed cause)

/-- Fail unless the session is in a phase. -/
def expect (operation : String) (phase : Phase) : Call σ Unit := do
  let s ← current
  if s.phase ≠ phase then fail (.invalidState operation s.phase)

/-- Close a connection, if there is one. -/
def closeStream : Option Stream → Call σ Unit
  | some stream => outside (S.close stream)
  | none => pure ()

/-- Take a new video connection in place of one of an earlier attempt. -/
def setVideo (stream : Stream) : Call σ Unit := do
  let old := (← current).video
  update fun s => { s with video := some stream }
  closeStream S old

/-- Take a new control connection in place of one of an earlier attempt. -/
def setControl (stream : Stream) : Call σ Unit := do
  let old := (← current).control
  update fun s => { s with control := some stream }
  closeStream S old

/-- Tell of a stop request that failed. -/
def noteStop : Except BridgeError Unit → StateM σ Unit
  | .ok () => pure ()
  | .error e => S.warn s!"Could not stop the remote agent: {e.message}"

/-! ## Starting -/

/-- Activate the agent by a request. A request that fails is followed by one
to stop, in case the agent came up all the same. -/
def startDirect (url : String) (p : Params) : Call σ Unit := do
  match Activator.ofText url with
  | .error e => fail (.config (.remoteUrl e.message))
  | .ok a =>
    match ← outside (a.start S p).run with
    | .error e =>
      outside (do noteStop S (← (a.stop S).run))
      fail (.ofActivation e)
    | .ok () =>
      update fun s =>
        { s with activator := some a, vigil := { s.vigil with terminated := true } }
      outside (S.info s!"Remote agent activated at {url}")

/-- Check that the artifact is a regular file, and push it to the device. -/
def pushArtifact (artifact : String) (serial : Option String) : Call σ Unit := do
  if !(← outside (S.isFile artifact)) then
    let e := ConfigError.artifact artifact
    outside (S.error e.message)
    fail (.config e)
  match ← outside (S.bridge serial (.push artifact Agent.devicePath)) with
  | .ok () => pure ()
  | .error e => fail (.push e)

/-- Close a listener that nobody else knows of. -/
def discardListener : Option Listener → StateM σ Unit
  | some l => fun w => ((), (Listener.Call.closing.run S Vigil.ownerId l w).2.2)
  | none => pure ()

/-- Activate the agent through the bridge. -/
def startBridge (artifact : String) (serial : Option String) (p : Params) : Call σ Unit := do
  pushArtifact S artifact serial
  match ← outside (Tunnel.enable S serial p.portRange p.forceForward).run with
  | .error e => fail (.tunnel e)
  | .ok (tunnel, listener) =>
    match ← outside (S.execute serial (Agent.shellCommand p tunnel.direction.isForward)) with
    | .error e =>
      outside (discardListener S listener)
      outside (tunnel.disable S serial)
      fail (.spawn e)
    | .ok process =>
      let pid := RunningAgent.pidText process.pid
      outside (S.info s!"Remote agent started ({tunnel.direction.name} tunnel, pid {pid})")
      update fun s =>
        { s with
          tunnel := some tunnel
          tunnelEnabled := true
          vigil := { s.vigil with
            listener, watcher := some { process, guards := listener.isSome } } }

/-- Activate an agent, at the endpoint or over the bridge. -/
def activate (artifact : String) (serial : Option String) (p : Params) : Call σ Unit :=
  match p.remoteUrl with
  | some url => startDirect S url p
  | none => startBridge S artifact serial p

/-- Start with an activation, or forget what was started where it fails. -/
def conclude (activation : Call σ Unit) : Call σ Unit := do
  match ← ExceptT.lift activation.run with
  | .ok () => update fun s => { s with phase := .started }
  | .error (.failed e) =>
    outside (S.error s!"Could not start the server: {e.message}")
    update fun s => { s with phase := .idle, serial := none }
    fail e
  | .error .stuck => throw .stuck

/-- Activate an agent. On failure everything done so far is undone. -/
def start (artifact : String) (serial : Option String) (p : Params) : Call σ Unit := do
  expect "start" .idle
  update fun s => { s with phase := .starting, serial, portRange := p.portRange }
  conclude S (activate S artifact serial p)

/-! ## Connecting -/

/-- Connect both channels to an agent that listens. Once the first is live the
agent is known to serve, and the second is tried once only. -/
def connectProbed (e : Endpoint) (policy : RetryPolicy) : Call σ Unit := do
  let video ← attempt (Connection.probe S e policy)
  setVideo S video
  let control ← attempt (Connection.connect S e)
  setControl S control

/-- Accept both channels from an agent that connects, and listen no longer. -/
def connectAccepted : Call σ Unit := do
  if (← current).vigil.listener.isNone then fail .remoteDied
  setVideo S (← attempt (Connection.accept S))
  setControl S (← attempt (Connection.accept S))
  discard (waiting (Vigil.closeListener S))

/-- Connect both channels the way the agent was activated. A forward tunnel is
of no more use then. -/
def connectChannels : Call σ Unit := do
  let s ← current
  match s.activator, s.tunnel with
  | some a, _ => connectProbed S ⟨a.hostName, s.portRange.first⟩ .direct
  | none, none => fail (.invalidState "connect" s.phase)
  | none, some tunnel =>
    match tunnel.direction with
    | .reverse => connectAccepted S
    | .forward =>
      connectProbed S (.loopback tunnel.localPort) .forward
      outside (tunnel.disable S s.serial)
      update fun s => { s with tunnelEnabled := false }

/-- Connect the channels, the video before the control. On failure the session
stays started. -/
def connect : Call σ Unit := do
  expect "connect" .started
  connectChannels S
  update fun s => { s with phase := .connected }
  outside (S.info "Connected to the remote agent")

/-- Hand both channels over, if the session holds both. -/
def takeChannels : Call σ (Option (Stream × Stream)) := do
  let s ← current
  match s.video, s.control with
  | some video, some control =>
    update fun s => { s with video := none, control := none }
    return some (video, control)
  | _, _ => return none

/-! ## Stopping -/

/-- Close the channels the session holds. -/
def closeChannels : Call σ Unit := do
  let s ← current
  closeStream S s.video
  closeStream S s.control
  update fun s => { s with video := none, control := none }

/-- Undo what the activation left in place. -/
def deactivate : Call σ Unit := do
  let s ← current
  match s.activator with
  | some a => outside (do noteStop S (← (a.stop S).run))
  | none =>
    if s.tunnelEnabled then
      if let some tunnel := s.tunnel then outside (tunnel.disable S s.serial)
      update fun s => { s with tunnelEnabled := false }

/-- Ask for the process to be killed, and wait for its watcher. -/
def endWatch (kill : Bool) : Call σ Unit := do
  if kill then update fun s => { s with vigil := s.vigil.askKill }
  waiting (Vigil.join S)

/-- Listen no longer, if there is a listener. -/
def stopListening : Call σ Unit := do
  if (← current).vigil.listener.isSome then
    discard (waiting (Vigil.closeListener S))

/-- Give a watched agent some time to exit, and have it killed after that. -/
def awaitAgent : Call σ Unit := do
  if (← current).vigil.watcher.isSome then
    let ended ← waiting (some <$> Vigil.awaitTermination S watchdogDelay)
    if !ended then outside (S.warn "Killing the server...")
    endWatch S !ended

/-- Take a running session down. -/
def tearDown : Call σ Unit := do
  update fun s => { s with phase := .stopping }
  stopListening S
  closeChannels S
  deactivate S
  awaitAgent S
  update fun s => { s with phase := .stopped, vigil := { s.vigil with listener := none } }
  outside (S.info "Server stopped")

/-- Take the session down. -/
def stop : Call σ Unit := do
  let s ← current
  match s.phase with
  | .started | .connected => tearDown S
  | .idle => pure ()
  | phase => outside (S.warn s!"Cannot stop a session in state {phase.name}")

/-- Give the session up. No process is left behind. -/
def destroy : Call σ Unit := do
  let s ← current
  if s.phase ≠ .stopped ∧ s.phase ≠ .idle then
    outside (S.warn s!"Destroying a session in state {s.phase.name}")
  if s.vigil.watcher.isSome then endWatch S true
  closeChannels S
  update fun s => { s with phase := .destroyed }

end Session

end DeviceLink
