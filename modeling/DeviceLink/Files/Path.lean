/-!
# Files — paths

Joining a name to a path and taking the directory a path lies in, on the text
of the path alone.
-/

namespace DeviceLink

namespace Path

/-- Whether the path starts at the root. -/
def isAbsolute (path : String) : Bool := path.toList.head? == some '/'

/-- The path of `name` in the directory `base`. An absolute name stands for
itself. -/
def join (base name : String) : String :=
  if isAbsolute name then name
  else if base == "" || base.toList.getLast? == some '/' then base ++ name
  else base ++ "/" ++ name

end Path

end DeviceLink
