/-!
# Sessions — their phases and the direction of their tunnel

A session starts idle, is started, connected and stopped, in that order; two
phases are only passed through while a call is under way. The tunnel to the
device is opened from one of its two sides.
-/

namespace DeviceLink

/-- Where a session stands in its life. -/
inductive Phase
  | idle
  | starting
  | started
  | connected
  | stopping
  | stopped
  | destroyed
  deriving DecidableEq, Repr

/-- The phase's name. -/
def Phase.name : Phase → String
  | .idle => "idle"
  | .starting => "starting"
  | .started => "started"
  | .connected => "connected"
  | .stopping => "stopping"
  | .stopped => "stopped"
  | .destroyed => "destroyed"

/-- Which side opens the connections through the tunnel. -/
inductive Direction
  /-- The host listens and the device connects. -/
  | reverse
  /-- The device listens and the host connects. -/
  | forward
  deriving DecidableEq, Repr

namespace Direction

/-- The direction's name, the bridge tool's word for it. -/
def name : Direction → String
  | .reverse => "reverse"
  | .forward => "forward"

/-- The direction's name in data, which says who opens the connections. -/
def key : Direction → String
  | .reverse => "DeviceInitiates"
  | .forward => "HostInitiates"

/-- Whether the agent is the listening side. -/
def isForward : Direction → Bool
  | .reverse => false
  | .forward => true

end Direction

/-- How a tunnel makes use of a local port. -/
inductive PortUse
  /-- Listening on it behind a reverse mapping. -/
  | listen
  /-- Mapping it forward to the device. -/
  | forward
  deriving DecidableEq, Repr

/-- The use as a verb. -/
def PortUse.verb : PortUse → String
  | .listen => "listen on"
  | .forward => "forward"

end DeviceLink
