import DeviceLink.Datum.Mismatch
import DeviceLink.Params
import DeviceLink.Session.Phase
/-!
# Data — reading parameters and configurations

Each type of the library that data can hold has a reader here. A structure is
read from a map, where unknown keys are passed over and absent ones keep their
standard values, or from a list of its fields in order, where the tail may be
absent. The first value that does not fit, in the order the data gives them,
is the fault that is told.

Two formats differ in how they write a choice among names, and in whether a
list may be longer than its structure.
-/

namespace DeviceLink

/-- The format data was read from, as far as reading depends on it. -/
inductive Datum.Format
  /-- Messages between programs: every list is read to its end. -/
  | message
  /-- Configuration files. -/
  | file
  deriving DecidableEq

namespace Datum

/-! ## Plain values -/

/-- A whole number between two bounds. -/
def asWord (lo hi : Int) (expected : String) (d : Datum) : Except Mismatch Int :=
  match d with
  | .int n =>
    if lo ≤ n ∧ n ≤ hi then .ok n else .error (.value (.int n) expected)
  | _ => .error (.type (.ofDatum d) expected)

/-- A 16-bit word. -/
def asUInt16 (d : Datum) : Except Mismatch UInt16 :=
  (d.asWord 0 65535 "u16").map fun n => UInt16.ofNat n.toNat

/-- A 32-bit word. -/
def asUInt32 (d : Datum) : Except Mismatch UInt32 :=
  (d.asWord 0 4294967295 "u32").map fun n => UInt32.ofNat n.toNat

/-- A signed 8-bit word. -/
def asInt8 (d : Datum) : Except Mismatch Int8 :=
  (d.asWord (-128) 127 "i8").map Int8.ofInt

/-- A truth value. -/
def asBool : Datum → Except Mismatch Bool
  | .bool b => .ok b
  | d => .error (.type (.ofDatum d) "a boolean")

/-- A text. -/
def asText : Datum → Except Mismatch String
  | .text s => .ok s
  | d => .error (.type (.ofDatum d) "a string")

/-- A path. -/
def asPath : Datum → Except Mismatch String
  | .text s => .ok s
  | d => .error (.type (.ofDatum d) "path string")

/-- A value that may be null. -/
def asOption (read : Datum → Except Mismatch α) : Datum → Except Mismatch (Option α)
  | .null => .ok none
  | d => (read d).map some

/-! ## Choices -/

/-- What may stand beside a name that has no further content: nothing. -/
def asNothing (format : Format) (d : Datum) : Except Mismatch Unit :=
  match format, d with
  | .message, .null => .ok ()
  | .message, d => .error (.type (.ofDatum d) "unit")
  | .file, .list [] => .ok ()
  | .file, .list _ => .error (.choiceForm "expected empty array")
  | .file, .map [] => .ok ()
  | .file, .map _ => .error (.choiceForm "expected empty table")
  | .file, .text _ => .error (.choiceForm "expected table, found string")
  | .file, .int _ => .error (.choiceForm "expected table, found integer")
  | .file, .float _ => .error (.choiceForm "expected table, found float")
  | .file, .bool _ => .error (.choiceForm "expected table, found boolean")
  | .file, .moment _ => .error (.choiceForm "expected table, found datetime")
  | .file, .null => .ok ()

/-- One of several names, as a text or as the only key of a map. -/
def asChoice (format : Format) (choices : List (String × α)) (d : Datum) : Except Mismatch α :=
  let named (name : String) : Except Mismatch α :=
    match choices.find? (·.1 == name) with
    | some c => .ok c.2
    | none => .error (.choice name (choices.map (·.1)))
  match d with
  | .text name => named name
  | .map [(name, content)] => do
    let value ← named name
    asNothing format content
    return value
  | .map entries =>
    match format with
    | .message => .error (.value .map "map with a single key")
    | .file =>
      .error (.choiceForm
        (if entries.isEmpty then "wanted exactly 1 element, found 0 elements"
         else "wanted exactly 1 element, more than 1 element"))
  | d =>
    match format with
    | .message => .error (.type (.ofDatum d) "string or map")
    | .file => .error (.choiceForm "wanted string or table")

/-- A log level, by its name as it is written and no other. -/
def asLogLevel (format : Format) (d : Datum) : Except Mismatch LogLevel :=
  d.asChoice format (LogLevel.all.map fun l => (l.name, l))

/-- A tunnel's direction. -/
def asDirection (format : Format) (d : Datum) : Except Mismatch Direction :=
  d.asChoice format [(Direction.reverse.key, .reverse), (Direction.forward.key, .forward)]

/-! ## Ranges of ports -/

/-- A range of ports: one port, the text of a range, or a map of its two ends. -/
def asPortRange (d : Datum) : Except Mismatch PortRange :=
  match d with
  | .int _ =>
    match d.asUInt16 with
    | .ok port => .ok (.single port)
    | .error _ => .error .rangeForm
  | .text s => (PortRange.parse s).mapError .portRange
  | .map entries =>
    match (lookup "first" entries).map asUInt16, (lookup "last" entries).map asUInt16 with
    | some (.ok first), some (.ok last) => (PortRange.between first last).mapError .portRange
    | _, _ => .error .rangeForm
  | _ => .error .rangeForm

/-! ## Structures -/

/-- A field of a structure: its key, and how its value is read into it. -/
abbrev Field (α : Type) := String × (Datum → α → Except Mismatch α)

/-- Read the entries of a map into a structure, in their order. -/
def fillByKey (fields : List (Field α)) : List (String × Datum) → α → Except Mismatch α
  | [], a => .ok a
  | (key, d) :: rest, a =>
    match fields.find? (·.1 == key) with
    | none => fillByKey fields rest a
    | some f => do fillByKey fields rest (← f.2 d a)

/-- Read the items of a list into the fields of a structure in turn; what is
left of the list is returned. -/
def fillInOrder : List (Field α) → List Datum → α → Except Mismatch (α × List Datum)
  | [], ds, a => .ok (a, ds)
  | _ :: _, [], a => .ok (a, [])
  | f :: fields, d :: ds, a => do fillInOrder fields ds (← f.2 d a)

/-- Read a structure onto its standard value. -/
def asStructure (format : Format) (name : String) (fields : List (Field α)) (standard : α)
    (d : Datum) : Except Mismatch α :=
  match d with
  | .map entries => fillByKey fields entries standard
  -- a date is read as a map of one unknown key
  | .moment _ => .ok standard
  | .list items => do
    let (a, left) ← fillInOrder fields items standard
    if format = .message ∧ left ≠ [] then .error (.tooLong items.length) else .ok a
  | d => .error (.type (.ofDatum d) s!"struct {name}")

/-- The fields of a session's parameters, in order. -/
def paramsFields (format : Format) : List (Field Params) :=
  [ ("log_level", fun d p => do return { p with logLevel := ← d.asLogLevel format }),
    ("crop", fun d p => do return { p with crop := ← d.asOption asText }),
    ("codec_options", fun d p => do return { p with codecOptions := ← d.asOption asText }),
    ("encoder_name", fun d p => do return { p with encoderName := ← d.asOption asText }),
    ("port_range", fun d p => do return { p with portRange := ← d.asPortRange }),
    ("max_size", fun d p => do return { p with maxSize := ← d.asUInt16 }),
    ("bit_rate", fun d p => do return { p with bitRate := ← d.asUInt32 }),
    ("max_fps", fun d p => do return { p with maxFps := ← d.asUInt16 }),
    ("lock_video_orientation", fun d p => do return { p with lockVideoOrientation := ← d.asInt8 }),
    ("control", fun d p => do return { p with control := ← d.asBool }),
    ("display_id", fun d p => do return { p with displayId := ← d.asUInt16 }),
    ("show_touches", fun d p => do return { p with showTouches := ← d.asBool }),
    ("stay_awake", fun d p => do return { p with stayAwake := ← d.asBool }),
    ("force_adb_forward", fun d p => do return { p with forceForward := ← d.asBool }),
    ("remote_url", fun d p => do return { p with remoteUrl := ← d.asOption asText }) ]

/-- A session's parameters. -/
def asParams (format : Format) (d : Datum) : Except Mismatch Params :=
  d.asStructure format "ServerParams" (paramsFields format) {}

/-- The fields of the tool's paths, in order. -/
def toolPathsFields : List (Field ToolPaths) :=
  [ ("adb_path", fun d p => do return { p with adbPath := ← d.asOption asPath }),
    ("server_path", fun d p => do return { p with serverPath := ← d.asOption asPath }) ]

/-- The tool's paths. -/
def asToolPaths (format : Format) (d : Datum) : Except Mismatch ToolPaths :=
  d.asStructure format "BridgeConfig" toolPathsFields {}

/-- The fields of a configuration, in order. -/
def configurationFields (format : Format) : List (Field Configuration) :=
  [ ("server", fun d c => do return { c with server := ← d.asParams format }),
    ("bridge", fun d c => do return { c with bridge := ← d.asToolPaths format }) ]

/-- A configuration. -/
def asConfiguration (format : Format) (d : Datum) : Except Mismatch Configuration :=
  d.asStructure format "DevtetherConfig" (configurationFields format) {}

end Datum

end DeviceLink
