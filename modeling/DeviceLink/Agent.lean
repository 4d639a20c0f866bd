import DeviceLink.Params
/-!
# The agent — its contract with the host

The names and places the agent on the device is known by, and the positional
list of arguments that tells it the session's parameters. The order of the
arguments and the placeholder for an unset one are the contract; the version
stands first, and the agent refuses any other.
-/

namespace DeviceLink

namespace Agent

/-- The version of the contract, announced first. -/
def protocolVersion : String := "1.17"

/-- The device socket the agent listens on or connects to. -/
def socketName : String := "scrcpy"

/-- The artifact's file name on the host. -/
def artifactName : String := "scrcpy-server"

/-- Where the artifact is pushed to on the device. -/
def devicePath : String := "/data/local/tmp/scrcpy-server.jar"

/-- The agent's entry point. -/
def mainClass : String := "com.genymobile.scrcpy.Server"

/-- The host's address at every tunnel socket. -/
def localhost : String := "127.0.0.1"

/-- Stands for an option that is not set. -/
def unset : String := "-"

/-- What the body of a successful activation contains. -/
def successMarker : String := "success"

/-- A truth value as an argument. -/
def flag (b : Bool) : String := if b then "true" else "false"

/-- An optional text as an argument. -/
def orUnset (text : Option String) : String := text.getD unset

/-- The positional arguments, in contract order. `forward` tells the agent to
listen and to write the probe byte. -/
def arguments (p : Params) (forward : Bool) : List String :=
  [ protocolVersion,
    p.logLevel.name,
    toString p.maxSize,
    toString p.bitRate,
    toString p.maxFps,
    toString p.lockVideoOrientation,
    flag forward,
    orUnset p.crop,
    -- packet boundaries and time stamps are always sent
    flag true,
    flag p.control,
    toString p.displayId,
    flag p.showTouches,
    flag p.stayAwake,
    orUnset p.codecOptions,
    orUnset p.encoderName ]

/-- What runs the agent, before its own arguments. -/
def launcher : List String :=
  ["shell", s!"CLASSPATH={devicePath}", "app_process", "/", mainClass]

/-- The bridge tool's argument list that runs the agent. -/
def shellCommand (p : Params) (forward : Bool) : List String :=
  launcher ++ arguments p forward

/-- The path of the request that starts an agent directly. A direct agent
always listens. -/
def startPath (p : Params) : String :=
  "startScrcpy/" ++ "/".intercalate (arguments p true)

/-- The path of the request that stops it. -/
def stopPath : String := "stopScrcpy/"

end Agent

end DeviceLink
