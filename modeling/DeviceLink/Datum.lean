import DeviceLink.Number.Binary64
/-!
# Data — values read from a file or a message

The values a structured text can hold, whatever its format. A map keeps its
entries in the order they were read, each key once.
-/

namespace DeviceLink

/-- A value read from a structured text. -/
inductive Datum
  | null
  | bool (value : Bool)
  | int (value : Int)
  | float (value : Number.Binary64)
  | text (value : String)
  /-- A date or a time, as it was written. -/
  | moment (value : String)
  | list (items : List Datum)
  | map (entries : List (String × Datum))
  deriving Repr

namespace Datum

/-- The value a map holds under a key. -/
def lookup (key : String) (entries : List (String × Datum)) : Option Datum :=
  (entries.find? (·.1 == key)).map (·.2)

end Datum

end DeviceLink
