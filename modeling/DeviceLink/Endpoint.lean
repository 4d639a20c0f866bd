import DeviceLink.Agent
import DeviceLink.Session.Phase
/-!
# Endpoints — where the host connects to, and how a link is described
-/

namespace DeviceLink

/-- An address the host connects to. -/
structure Endpoint where
  host : String
  port : Port
  deriving DecidableEq

namespace Endpoint

/-- The local end of a forward tunnel. -/
def loopback (port : Port) : Endpoint := ⟨Agent.localhost, port⟩

/-- The address as it is shown. -/
def render (e : Endpoint) : String := s!"{e.host}:{e.port}"

end Endpoint

/-- How a session reaches its agent, for a user: by its host in direct mode,
else by the tunnel and its port. -/
def describeLink (host : Option String) (direction : Option Direction) (port : Option Port) :
    String :=
  match host, direction, port with
  | some host, _, some port => s!"direct connection to {host}:{port}"
  | some host, _, none => s!"direct connection to {host}"
  | none, some direction, some port => s!"{direction.name} tunnel on port {port}"
  | none, _, _ => "no tunnel"

end DeviceLink
