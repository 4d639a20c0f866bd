import DeviceLink.LogLevel
import DeviceLink.Port
/-!
# Parameters — what a session is started with

The parameters of one session, where the bridge tool and the agent's artifact
are found, and the configuration that holds both. Each has the values it takes
when nothing is configured.
-/

namespace DeviceLink

/-- The parameters of one session. -/
structure Params where
  /-- How much the host and the agent report. -/
  logLevel : LogLevel := .info
  /-- The part of the screen that is sent, as `width:height:x:y`. -/
  crop : Option String := none
  /-- Options for the encoder, as `key[:type]=value` pairs. -/
  codecOptions : Option String := none
  /-- The device's encoder to use. -/
  encoderName : Option String := none
  /-- The local ports tried for the tunnel; in direct mode the first is the
  remote port. -/
  portRange : PortRange := .standard
  /-- The largest video dimension, zero for no limit. -/
  maxSize : UInt16 := 0
  /-- The video's bits per second. -/
  bitRate : UInt32 := 8000000
  /-- The largest frame rate, zero for no limit. -/
  maxFps : UInt16 := 0
  /-- The locked orientation, minus one for none. -/
  lockVideoOrientation : Int8 := -1
  /-- Whether the control channel injects input. -/
  control : Bool := true
  /-- The display that is sent. -/
  displayId : UInt16 := 0
  /-- Whether touches are shown on the device. -/
  showTouches : Bool := false
  /-- Whether the device is kept awake. -/
  stayAwake : Bool := false
  /-- Whether a reverse tunnel is not even tried. -/
  forceForward : Bool := false
  /-- The endpoint that activates a remote agent. Setting it selects direct
  mode. -/
  remoteUrl : Option String := none
  deriving DecidableEq

/-- Whether the session is activated over HTTP and not through the bridge. -/
def Params.isDirect (p : Params) : Bool := p.remoteUrl.isSome

/-- Where the bridge tool and the agent's artifact are found. -/
structure ToolPaths where
  /-- The bridge tool's program. -/
  adbPath : Option String := none
  /-- The agent's artifact on the host. -/
  serverPath : Option String := none
  deriving DecidableEq

/-- What a configuration file holds. -/
structure Configuration where
  server : Params := {}
  bridge : ToolPaths := {}
  deriving DecidableEq

end DeviceLink
