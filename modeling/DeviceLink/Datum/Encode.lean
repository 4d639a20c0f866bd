import DeviceLink.Datum
import DeviceLink.Params
/-!
# Data — writing parameters and configurations

The value each structure is written as. A range of ports is written as its
text, and the fields stand in the order they are read in.
-/

namespace DeviceLink

/-- A value that may be unset. -/
def Datum.ofOption : Option String → Datum
  | none => .null
  | some s => .text s

/-- The parameters as a value. -/
def Params.toDatum (p : Params) : Datum :=
  .map
    [ ("log_level", .text p.logLevel.name),
      ("crop", .ofOption p.crop),
      ("codec_options", .ofOption p.codecOptions),
      ("encoder_name", .ofOption p.encoderName),
      ("port_range", .text p.portRange.render),
      ("max_size", .int p.maxSize.toNat),
      ("bit_rate", .int p.bitRate.toNat),
      ("max_fps", .int p.maxFps.toNat),
      ("lock_video_orientation", .int p.lockVideoOrientation.toInt),
      ("control", .bool p.control),
      ("display_id", .int p.displayId.toNat),
      ("show_touches", .bool p.showTouches),
      ("stay_awake", .bool p.stayAwake),
      ("force_adb_forward", .bool p.forceForward),
      ("remote_url", .ofOption p.remoteUrl) ]

/-- The tool's paths as a value. -/
def ToolPaths.toDatum (b : ToolPaths) : Datum :=
  .map [("adb_path", .ofOption b.adbPath), ("server_path", .ofOption b.serverPath)]

/-- The configuration as a value. -/
def Configuration.toDatum (c : Configuration) : Datum :=
  .map [("server", c.server.toDatum), ("bridge", c.bridge.toDatum)]

end DeviceLink
