import DeviceLink.CommandLine.Grammar
import DeviceLink.Params
/-!
# Run options — a session's parameters on the command line

Each option stands for one parameter and overrides the configured one; a flag
only ever turns its parameter on, or the control channel off. The device's
serial is no parameter: it is given beside them, or by the environment.
-/

namespace DeviceLink

/-- The options a session is run with. -/
structure RunOptions where
  serial : Option String := none
  portRange : Option PortRange := none
  forceForward : Bool := false
  remoteUrl : Option String := none
  maxSize : Option UInt16 := none
  bitRate : Option UInt32 := none
  maxFps : Option UInt16 := none
  lockVideoOrientation : Option Int8 := none
  crop : Option String := none
  displayId : Option UInt16 := none
  noControl : Bool := false
  showTouches : Bool := false
  stayAwake : Bool := false
  codecOptions : Option String := none
  encoderName : Option String := none
  logLevel : Option LogLevel := none
  deriving DecidableEq

namespace RunOptions

open CommandLine

/-- The environment variable that names the device. -/
def serialVariable : String := "ANDROID_SERIAL"

/-- The parameters with the options that are given put in place. -/
def apply (o : RunOptions) (base : Params) : Params :=
  { base with
    portRange := o.portRange.getD base.portRange
    forceForward := o.forceForward || base.forceForward
    remoteUrl := o.remoteUrl.or base.remoteUrl
    maxSize := o.maxSize.getD base.maxSize
    bitRate := o.bitRate.getD base.bitRate
    maxFps := o.maxFps.getD base.maxFps
    lockVideoOrientation := o.lockVideoOrientation.getD base.lockVideoOrientation
    crop := o.crop.or base.crop
    displayId := o.displayId.getD base.displayId
    control := !o.noControl && base.control
    showTouches := o.showTouches || base.showTouches
    stayAwake := o.stayAwake || base.stayAwake
    codecOptions := o.codecOptions.or base.codecOptions
    encoderName := o.encoderName.or base.encoderName
    logLevel := o.logLevel.getD base.logLevel }

/-! ## Values -/

/-- Any text. -/
def text (set : String → α → α) : String → α → Except ValueFault α :=
  fun s a => .ok (set s a)

/-- A whole number between two bounds. -/
def word (lo hi : Int) (set : Int → α → α) : String → α → Except ValueFault α :=
  fun s a =>
    match Text.signed 64 s.toList with
    | .error e => .error (.unfit e.message)
    | .ok n =>
      if lo ≤ n ∧ n ≤ hi then .ok (set n a)
      else .error (.unfit s!"{n} is not in {lo}..={hi}")

/-- A 16-bit word. -/
def word16 (set : UInt16 → α → α) : String → α → Except ValueFault α :=
  word 0 65535 fun n => set (UInt16.ofNat n.toNat)

/-- A 32-bit word. -/
def word32 (set : UInt32 → α → α) : String → α → Except ValueFault α :=
  word 0 4294967295 fun n => set (UInt32.ofNat n.toNat)

/-- A signed 8-bit word. -/
def signed8 (set : Int8 → α → α) : String → α → Except ValueFault α :=
  word (-128) 127 fun n => set (Int8.ofInt n)

/-- A range of ports. -/
def ports (set : PortRange → α → α) : String → α → Except ValueFault α :=
  fun s a =>
    match PortRange.parse s with
    | .ok r => .ok (set r a)
    | .error e => .error (.unfit e.message)

/-- A log level. -/
def level (set : LogLevel → α → α) : String → α → Except ValueFault α :=
  fun s a =>
    match LogLevel.parse s with
    | .ok l => .ok (set l a)
    | .error e => .error (.unfit e.message)

/-! ## The grammar -/

/-- What each option does. -/
def switches : List (Switch RunOptions) :=
  [ ⟨"serial", some 's', .value "SERIAL" false (text fun s o => { o with serial := some s })⟩,
    ⟨"port", some 'p', .value "PORT" false (ports fun r o => { o with portRange := some r })⟩,
    ⟨"force-adb-forward", none, .mark fun o => { o with forceForward := true }⟩,
    ⟨"remote-url", none,
      .value "REMOTE_URL" false (text fun s o => { o with remoteUrl := some s })⟩,
    ⟨"max-size", some 'm',
      .value "MAX_SIZE" false (word16 fun n o => { o with maxSize := some n })⟩,
    ⟨"bit-rate", some 'b',
      .value "BIT_RATE" false (word32 fun n o => { o with bitRate := some n })⟩,
    ⟨"max-fps", none, .value "MAX_FPS" false (word16 fun n o => { o with maxFps := some n })⟩,
    ⟨"lock-video-orientation", none,
      .value "LOCK_VIDEO_ORIENTATION" true
        (signed8 fun n o => { o with lockVideoOrientation := some n })⟩,
    ⟨"crop", none, .value "CROP" false (text fun s o => { o with crop := some s })⟩,
    ⟨"display", none, .value "DISPLAY" false (word16 fun n o => { o with displayId := some n })⟩,
    ⟨"no-control", some 'n', .mark fun o => { o with noControl := true }⟩,
    ⟨"show-touches", some 't', .mark fun o => { o with showTouches := true }⟩,
    ⟨"stay-awake", some 'w', .mark fun o => { o with stayAwake := true }⟩,
    ⟨"codec-options", none,
      .value "CODEC_OPTIONS" false (text fun s o => { o with codecOptions := some s })⟩,
    ⟨"encoder", none, .value "ENCODER" false (text fun s o => { o with encoderName := some s })⟩,
    ⟨"log-level", none, .value "LOG_LEVEL" false (level fun l o => { o with logLevel := some l })⟩ ]

/-- Help is an option of every command. -/
def helpSwitch : Switch α := ⟨"help", some 'h', .help⟩

/-- What the command that runs a session is for. -/
def purpose : String := "Connect to a device and hold the session until interrupted"

/-- The grammar of the options alone. -/
def grammar : Grammar RunOptions :=
  { program := "run", purpose := purpose, options := switches ++ [helpSwitch] }

/-- The options with the serial the environment names, if they name none. -/
def withEnvironment (o : RunOptions) (serial : Option String) : RunOptions :=
  { o with serial := o.serial.or serial }

/-- Read the options. -/
def parse (args : List String) (serial : Option String) : Except UsageError RunOptions :=
  (CommandLine.parse grammar args {}).map (·.withEnvironment serial)

end RunOptions

end DeviceLink
