import DeviceLink.Listener
/-!
# Tunnels — a mapping between a local port and the device

A reverse tunnel is preferred: the host listens and the agent connects. Where
the device does not support it, or it is not wanted, the tunnel is a forward
one. Either is tried on the ports of a range in order. A port whose mapping
cannot be used has it removed again before the next one is tried.
-/

namespace DeviceLink

/-- A mapping that is in place. -/
structure Tunnel where
  direction : Direction
  localPort : Port
  deriving DecidableEq, Repr

namespace Tunnel

variable {σ : Type} (S : Surroundings σ) (serial : Option String)

/-- The command that takes the mapping away. -/
def removal (t : Tunnel) : BridgeCommand :=
  match t.direction with
  | .reverse => .reverseRemove Agent.socketName
  | .forward => .forwardRemove t.localPort

/-- Take the mapping away. A failure is only told. -/
def disable (t : Tunnel) : StateM σ Unit := do
  match ← S.bridge serial t.removal with
  | .ok () => pure ()
  | .error e =>
    S.warn s!"Could not remove {t.direction.name} tunnel on port {t.localPort}: {e.message}"

/-- Tell that another port is tried, if one is left. -/
def noteRetry (purpose : PortUse) (port : Port) (rest : List Port) : StateM σ Unit :=
  match rest with
  | next :: _ => S.warn s!"Could not {purpose.verb} port {port}, retrying on {next}"
  | [] => pure ()

/-- Fail because no port of the range is of use. -/
def exhausted {α : Type} (purpose : PortUse) (range : PortRange) :
    ExceptT TunnelError (StateM σ) α := do
  let e := TunnelError.exhausted purpose range
  S.error e.message
  throw e

/-- Try ports until one is mapped and listened on. A command that fails ends
the walk: it would fail on every port. -/
def reverseFrom (range : PortRange) :
    List Port → ExceptT TunnelError (StateM σ) (Tunnel × Listener)
  | [] => exhausted S .listen range
  | port :: rest => do
    match ← ExceptT.lift (S.bridge serial (.reverse Agent.socketName port)) with
    | .error e => throw (.command (BridgeCommand.reverse Agent.socketName port).label e)
    | .ok () => pure ()
    match ← ExceptT.lift (Listener.bind S port).run with
    | .ok listener =>
      S.info s!"Reverse tunnel enabled on port {port}"
      return (⟨.reverse, port⟩, listener)
    | .error _ =>
      Tunnel.disable S serial ⟨.reverse, port⟩
      noteRetry S .listen port rest
      reverseFrom range rest

/-- Try ports until one is mapped. -/
def forwardFrom (range : PortRange) : List Port → ExceptT TunnelError (StateM σ) Tunnel
  | [] => exhausted S .forward range
  | port :: rest => do
    match ← ExceptT.lift (S.bridge serial (.forward port Agent.socketName)) with
    | .ok () =>
      S.info s!"Forward tunnel enabled on port {port}"
      return ⟨.forward, port⟩
    | .error _ =>
      noteRetry S .forward port rest
      forwardFrom range rest

/-- Map a port of the range for a tunnel without a listener. -/
def enableForward (range : PortRange) :
    ExceptT TunnelError (StateM σ) (Tunnel × Option Listener) := do
  let tunnel ← forwardFrom S serial range range.ports
  return (tunnel, none)

/-- Map a port of the range; a reverse tunnel comes with its listener. -/
def enable (range : PortRange) (forceForward : Bool) :
    ExceptT TunnelError (StateM σ) (Tunnel × Option Listener) := do
  if !forceForward then
    match ← ExceptT.lift (reverseFrom S serial range range.ports).run with
    | .ok (tunnel, listener) => return (tunnel, some listener)
    | .error _ => S.warn "'adb reverse' failed, fallback to 'adb forward'"
  enableForward S serial range

end Tunnel

end DeviceLink
