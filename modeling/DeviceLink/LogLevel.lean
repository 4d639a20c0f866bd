/-!
# Log levels

How much the host and the agent report. A level has one name, which is how it
is written and how the agent is told. Reading takes any ASCII case and the
longer word for a warning.
-/

namespace DeviceLink

/-- How severe a report has to be to be made. -/
inductive LogLevel
  | debug
  | info
  | warn
  | error
  deriving DecidableEq, Repr

namespace LogLevel

/-- The level's name. -/
def name : LogLevel → String
  | .debug => "debug"
  | .info => "info"
  | .warn => "warn"
  | .error => "error"

/-- Every level, the most talkative first. -/
def all : List LogLevel := [.debug, .info, .warn, .error]

/-- The level of exactly this name. -/
def ofName? (text : String) : Option LogLevel :=
  all.find? (·.name == text)

/-- A text that names no level. -/
structure Unknown where
  text : String
  deriving DecidableEq

/-- How the fault is told to a user. -/
def Unknown.message (e : Unknown) : String := s!"Unknown log level: '{e.text}'"

/-- Read a level in any ASCII case. -/
def parse (text : String) : Except Unknown LogLevel :=
  let folded := text.toLower
  if folded == "warning" then .ok .warn
  else
    match ofName? folded with
    | some level => .ok level
    | none => .error ⟨text⟩

theorem ofName?_name (level : LogLevel) : ofName? level.name = some level := by
  cases level <;> decide

theorem name_injective {a b : LogLevel} (h : a.name = b.name) : a = b := by
  have := ofName?_name a
  rw [h, ofName?_name b] at this
  exact (Option.some.inj this).symm

end LogLevel

end DeviceLink
