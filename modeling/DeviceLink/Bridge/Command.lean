import DeviceLink.Port
/-!
# The bridge — what it is told

The bridge tool carries out one command at a time for one device. A command
is told to it as an argument list, after the device's serial where one is
chosen; a command that fails is reported under its label.
-/

namespace DeviceLink

/-- A command the bridge tool carries out to its end. -/
inductive BridgeCommand
  /-- Copy a file of the host to the device. -/
  | push (localPath remotePath : String)
  /-- Map a device socket to a port of the host. -/
  | reverse (socket : String) (port : Port)
  /-- Take that mapping away. -/
  | reverseRemove (socket : String)
  /-- Map a port of the host to a device socket. -/
  | forward (port : Port) (socket : String)
  /-- Take that mapping away. -/
  | forwardRemove (port : Port)
  deriving DecidableEq, Repr

namespace BridgeCommand

/-- What a failure of the command is reported under. -/
def label : BridgeCommand → String
  | .push _ _ => "adb push"
  | .reverse _ _ => "adb reverse"
  | .reverseRemove _ => "adb reverse --remove"
  | .forward _ _ => "adb forward"
  | .forwardRemove _ => "adb forward --remove"

/-- What a failure to run something on the device is reported under. -/
def executeLabel : String := "adb shell"

/-- A device socket as an argument. -/
def socketArgument (socket : String) : String := s!"localabstract:{socket}"

/-- A port of the host as an argument. -/
def portArgument (port : Port) : String := s!"tcp:{port}"

/-- The command as the tool's arguments. -/
def arguments : BridgeCommand → List String
  | .push localPath remotePath => ["push", localPath, remotePath]
  | .reverse socket port => ["reverse", socketArgument socket, portArgument port]
  | .reverseRemove socket => ["reverse", "--remove", socketArgument socket]
  | .forward port socket => ["forward", portArgument port, socketArgument socket]
  | .forwardRemove port => ["forward", "--remove", portArgument port]

/-- Arguments for the device of a serial, or for the only one. -/
def forDevice (serial : Option String) (arguments : List String) : List String :=
  match serial with
  | some serial => ["-s", serial] ++ arguments
  | none => arguments

end BridgeCommand

end DeviceLink
