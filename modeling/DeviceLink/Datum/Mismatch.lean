import DeviceLink.Datum
import DeviceLink.LogLevel
import DeviceLink.Port
import DeviceLink.Text.Quoted
/-!
# Data — values that do not fit

What a reader found in place of what it expected, and the text that tells it.
-/

namespace DeviceLink

/-- What stands in a place, as a report names it. -/
inductive Found
  | null
  | bool (value : Bool)
  | int (value : Int)
  | float (value : Number.Binary64)
  | text (value : String)
  | list
  | map
  deriving DecidableEq

namespace Found

/-- What a value is to a report. A date is read as a map. -/
def ofDatum : Datum → Found
  | .null => .null
  | .bool b => .bool b
  | .int n => .int n
  | .float x => .float x
  | .text s => .text s
  | .moment _ => .map
  | .list _ => .list
  | .map _ => .map

/-- How it is told to a user. -/
def describe : Found → String
  | .null => "null"
  | .bool b => s!"boolean `{b}`"
  | .int n => s!"integer `{n}`"
  | .float x => s!"floating point `{x.render}`"
  | .text s => s!"string {Text.quoted s}"
  | .list => "sequence"
  | .map => "map"

end Found

/-- How the choices open to a name are told: all of them, in order. -/
def describeChoices : List String → String
  | [] => "there are no variants"
  | [a] => s!"expected `{a}`"
  | [a, b] => s!"expected `{a}` or `{b}`"
  | names => "expected one of " ++ ", ".intercalate (names.map fun n => s!"`{n}`")

/-- Why a value does not fit. -/
inductive Mismatch
  /-- It is of another type. -/
  | type (found : Found) (expected : String)
  /-- It is of the type and out of bounds. -/
  | value (found : Found) (expected : String)
  /-- It names none of the choices. -/
  | choice (name : String) (choices : List String)
  /-- It takes none of the forms a range of ports is written in. -/
  | rangeForm
  /-- The list holds more than its type. -/
  | tooLong (length : Nat)
  /-- The choice is not written as one; the text says how it is to be. -/
  | choiceForm (reason : String)
  /-- It is written as a range of ports and is none. -/
  | portRange (cause : PortRange.Error)
  deriving DecidableEq

/-- How the fault is told to a user. -/
def Mismatch.message : Mismatch → String
  | .type found expected => s!"invalid type: {found.describe}, expected {expected}"
  | .value found expected => s!"invalid value: {found.describe}, expected {expected}"
  | .choice name choices => s!"unknown variant `{name}`, {describeChoices choices}"
  | .rangeForm => "data did not match any variant of untagged enum PortRangeRepr"
  | .tooLong length => s!"invalid length {length}, expected fewer elements in array"
  | .choiceForm reason => reason
  | .portRange cause => cause.message

end DeviceLink
