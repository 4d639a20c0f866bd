import DeviceLink.Error
/-!
# Programs — how a failure is told

A failure tells what the program was about and then, one below the other, the
causes behind it, each the cause of the one before.
-/

namespace DeviceLink

/-! ## Causes -/

/-- The library's word for the position of a fault in a file. -/
def ConfigError.excerpt (reason : String) : String :=
  s!"TOML parse error at an unknown position\n{reason}\n"

/-- The error and its causes, in the words a file's fault is told in. -/
def ConfigError.causes : ConfigError → List String
  | .grammar => causesOf "the text is not in the format"
  | .data cause => causesOf cause.message
  | e => [e.message]
where
  /-- A fault in a file is told with the place it is at. -/
  causesOf (reason : String) : List String :=
    [s!"TOML parse error: {excerpt reason}", excerpt reason]

/-- The fault and its causes. -/
def TransportFault.causes (fault : TransportFault) : List String :=
  match fault with
  | .unsendable _ => [fault.message, "URL scheme is not allowed"]
  | _ => [fault.message]

/-- The error and its causes. -/
def BridgeError.causes (e : BridgeError) : List String :=
  e.message ::
    match e with
    | .spawn _ cause => [cause.message]
    | .transport _ cause => cause.causes
    | _ => []

/-- The error and its causes. -/
def TunnelError.causes (e : TunnelError) : List String :=
  e.message ::
    match e with
    | .command _ cause => cause.causes
    | _ => []

/-- The error and its causes. -/
def SessionError.causes (e : SessionError) : List String :=
  e.message ::
    match e with
    | .config cause => cause.causes
    | .push cause | .spawn cause | .protocolViolation cause => cause.causes
    | .tunnel cause => cause.causes
    | .connect _ cause => [cause.message]
    | _ => []

/-! ## Failures -/

/-- Why a program failed. -/
structure Failure where
  /-- What it was about. -/
  context : String
  /-- The causes, the nearest first. -/
  causes : List String
  deriving DecidableEq, Repr

namespace Failure

/-- A text with something before its first line and something before every
other. -/
def indented (first other text : String) : String :=
  first ++ s!"\n{other}".intercalate (text.splitOn "\n")

/-- A number, with blanks before it up to a width. -/
def padded (width n : Nat) : String :=
  let digits := toString n
  String.ofList (List.replicate (width - digits.length) ' ') ++ digits

/-- What stands above the causes. -/
def heading : String := "\n\nCaused by:\n"

/-- The causes, numbered if there are several. -/
def list : List String → String
  | [] => ""
  | [cause] => heading ++ indented "    " "    " cause
  | causes =>
    let entry (c : String × Nat) := indented s!"{padded 5 c.2}: " "       " c.1
    heading ++ "\n".intercalate (causes.zipIdx.map entry)

/-- How the failure is told. -/
def report (f : Failure) : String := s!"Error: {f.context}{list f.causes}\n"

end Failure

end DeviceLink
