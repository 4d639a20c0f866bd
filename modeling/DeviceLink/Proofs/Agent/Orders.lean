import DeviceLink.Agent
import DeviceLink.Proofs.Text.Decimal
/-!
# The agent — what its arguments tell it

The agent learns everything from its place in a list: fifteen arguments, each
read as what stands at its place (`Orders.ofArguments?`). What the host writes
the agent reads, whatever the parameters are (`ofArguments?_arguments`), with one text
set apart: an option that is set to the placeholder's own text would read as
one that is not set.
-/

namespace DeviceLink

namespace Agent

/-- **What the agent is told**, besides the version it has to have. -/
structure Orders where
  logLevel : LogLevel
  maxSize : UInt16
  bitRate : UInt32
  maxFps : UInt16
  lockVideoOrientation : Int8
  /-- Whether it listens and does not connect. -/
  forward : Bool
  crop : Option String
  control : Bool
  displayId : UInt16
  showTouches : Bool
  stayAwake : Bool
  codecOptions : Option String
  encoderName : Option String
  deriving DecidableEq

/-- What parameters say to the agent. -/
def orders (p : Params) (forward : Bool) : Orders where
  logLevel := p.logLevel
  maxSize := p.maxSize
  bitRate := p.bitRate
  maxFps := p.maxFps
  lockVideoOrientation := p.lockVideoOrientation
  forward := forward
  crop := p.crop
  control := p.control
  displayId := p.displayId
  showTouches := p.showTouches
  stayAwake := p.stayAwake
  codecOptions := p.codecOptions
  encoderName := p.encoderName

/-! ## Reading an argument -/

/-- A truth value. -/
def flag? (text : String) : Option Bool :=
  if text = "true" then some true else if text = "false" then some false else none

/-- A number below a bound. -/
def below? (bound : Nat) (text : String) : Option Nat :=
  (Text.digits? text.toList).filter (· < bound)

/-- A word of 16 bits. -/
def word16? (text : String) : Option UInt16 := (below? UInt16.size text).map UInt16.ofNat

/-- A word of 32 bits. -/
def word32? (text : String) : Option UInt32 := (below? UInt32.size text).map UInt32.ofNat

/-- A signed word of 8 bits. -/
def signed8? (text : String) : Option Int8 :=
  (Text.signed 8 text.toList).toOption.map Int8.ofInt

/-- A text, or nothing where the placeholder stands. -/
def given (text : String) : Option String := if text = unset then none else some text

/-- **The orders a list of arguments gives**, each argument read by its place. -/
def Orders.ofArguments? : List String → Option Orders
  | [version, level, size, rate, fps, orientation, forward, crop, framed, control, display,
      touches, awake, codec, encoder] =>
    if version = protocolVersion ∧ flag? framed = some true then do
      return {
        logLevel := ← LogLevel.ofName? level
        maxSize := ← word16? size
        bitRate := ← word32? rate
        maxFps := ← word16? fps
        lockVideoOrientation := ← signed8? orientation
        forward := ← flag? forward
        crop := given crop
        control := ← flag? control
        displayId := ← word16? display
        showTouches := ← flag? touches
        stayAwake := ← flag? awake
        codecOptions := given codec
        encoderName := given encoder }
    else none
  | _ => none

/-! ## Each argument is read back -/

theorem flag?_flag (b : Bool) : flag? (flag b) = some b := by
  cases b <;> rfl

theorem below?_repr {bound n : Nat} (h : n < bound) : below? bound n.repr = some n := by
  rw [below?, Nat.toList_repr, Text.digits?_toDigits]
  simp [h]

theorem word16?_toString (n : UInt16) : word16? (toString n) = some n := by
  have hread : below? UInt16.size (toString n) = some n.toNat := below?_repr n.toNat_lt
  rw [word16?, hread, Option.map_some, UInt16.ofNat_toNat]

theorem word32?_toString (n : UInt32) : word32? (toString n) = some n := by
  have hread : below? UInt32.size (toString n) = some n.toNat := below?_repr n.toNat_lt
  rw [word32?, hread, Option.map_some, UInt32.ofNat_toNat]

theorem signed8?_toString (n : Int8) : signed8? (toString n) = some n := by
  have hread : Text.signed 8 (toString n).toList = .ok n.toInt :=
    Text.signed_toString n.le_toInt n.toInt_lt
  rw [signed8?, hread]
  simp [Except.toOption]

/-- An option that is not set to the placeholder's own text. -/
abbrev IsPlain (text : Option String) : Prop := text ≠ some unset

theorem given_orUnset {text : Option String} (h : IsPlain text) : given (orUnset text) = text := by
  rcases text with _ | text
  · rfl
  · have hne : text ≠ unset := fun heq => h (heq ▸ rfl)
    rw [orUnset, Option.getD_some, given, if_neg hne]

/-! ## The whole list -/

/-- Parameters whose options can all be told from such that are not set. -/
structure Tellable (p : Params) : Prop where
  crop : IsPlain p.crop
  codecOptions : IsPlain p.codecOptions
  encoderName : IsPlain p.encoderName

/-- **What is written is read.** -/
theorem ofArguments?_arguments {p : Params} (h : Tellable p) (forward : Bool) :
    Orders.ofArguments? (arguments p forward) = some (orders p forward) := by
  simp only [arguments, Orders.ofArguments?, flag?_flag, word16?_toString, word32?_toString,
    signed8?_toString, LogLevel.ofName?_name, given_orUnset h.crop, given_orUnset h.codecOptions,
    given_orUnset h.encoderName, and_self, if_true, Option.bind_eq_bind, Option.bind_some]
  rfl

theorem drop_shellCommand (p : Params) (forward : Bool) :
    (shellCommand p forward).drop 5 = arguments p forward := rfl

/-- Only orders are written: what the agent is not told of makes no difference. -/
theorem arguments_congr {p q : Params} {forward : Bool} (h : orders p forward = orders q forward) :
    arguments p forward = arguments q forward := by
  simp only [orders, Orders.mk.injEq] at h
  obtain ⟨hlevel, hsize, hrate, hfps, horientation, -, hcrop, hcontrol, hdisplay, htouches, hawake,
    hcodec, hencoder⟩ := h
  rw [arguments, arguments, hlevel, hsize, hrate, hfps, horientation, hcrop, hcontrol, hdisplay,
    htouches, hawake, hcodec, hencoder]

/-- **The arguments are the parameters**, as far as the agent is concerned. There
are always fifteen, and the ports, the forced direction and the endpoint make no
difference to them. They read back as the orders they were written for, alone or
after the five that launch the agent; so two commands are the same only for the
same orders. -/
theorem arguments_faithful (p : Params) (forward : Bool) :
    (arguments p forward).length = 15 ∧
      (∀ (range : PortRange) (force : Bool) (url : Option String),
        arguments { p with portRange := range, forceForward := force, remoteUrl := url } forward =
          arguments p forward) ∧
      (shellCommand p forward).take 5 = launcher ∧
      (Tellable p →
        Orders.ofArguments? (arguments p forward) = some (orders p forward) ∧
        Orders.ofArguments? ((shellCommand p forward).drop 5) = some (orders p forward) ∧
        ∀ (q : Params) (forward' : Bool), Tellable q →
          shellCommand p forward = shellCommand q forward' →
          orders p forward = orders q forward') := by
  refine ⟨rfl, fun _ _ _ => arguments_congr rfl, rfl, fun h => ?_⟩
  have hread := ofArguments?_arguments h forward
  have hcommand : Orders.ofArguments? ((shellCommand p forward).drop 5) =
      some (orders p forward) := by
    rw [drop_shellCommand, hread]
  refine ⟨hread, hcommand, fun q forward' hq heq => ?_⟩
  rw [heq, drop_shellCommand, ofArguments?_arguments hq] at hcommand
  exact (Option.some.inj hcommand).symm

/-- Parameters with every option set, a negative orientation among them. -/
def detailed : Params where
  logLevel := .warn
  crop := some "1224:1440:0:0"
  codecOptions := some ""
  encoderName := some "a/b -"
  maxSize := 65535
  bitRate := 4294967295
  lockVideoOrientation := -128
  control := false
  stayAwake := true

theorem detailed_arguments_faithful :
    Tellable detailed ∧
      Orders.ofArguments? (arguments detailed true) = some (orders detailed true) ∧
      Orders.ofArguments? ((shellCommand detailed true).drop 5) = some (orders detailed true) := by
  have htellable : Tellable detailed := ⟨by decide, by decide, by decide⟩
  obtain ⟨hread, hcommand, -⟩ := (arguments_faithful detailed true).2.2.2 htellable
  exact ⟨htellable, hread, hcommand⟩

end Agent

end DeviceLink
