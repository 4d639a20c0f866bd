import DeviceLink.Datum.Mismatch
import DeviceLink.IoError
import DeviceLink.Session.Phase
/-!
# Errors — every way a call of this library fails

An error names its cause; the one text a user is shown for it is a function of
the cause. Errors wrap the errors of the layer below: a session's hold those
of the bridge, the tunnel and the configuration.
-/

namespace DeviceLink

/-! ## Configuration -/

/-- Why a configuration, or a part of it, cannot be had. -/
inductive ConfigError
  /-- There is no such file. -/
  | missing (path : String)
  /-- The file cannot be read. -/
  | unreadable (cause : IoError)
  /-- The directory it belongs in cannot be made. -/
  | noDirectory (cause : IoError)
  /-- The file cannot be written. -/
  | unwritable (cause : IoError)
  /-- The activation endpoint is no usable URL; the text says why. -/
  | remoteUrl (reason : String)
  /-- The file is not in the format. -/
  | grammar
  /-- The file's data does not fit. -/
  | data (cause : Mismatch)
  /-- There is no such range of ports. -/
  | portRange (cause : PortRange.Error)
  /-- There is no such log level. -/
  | logLevel (cause : LogLevel.Unknown)
  /-- The agent's artifact is not there. -/
  | artifact (path : String)
  deriving DecidableEq

/-- How the error is told to a user. A fault in a file's data is told by its
own text alone. -/
def ConfigError.message : ConfigError → String
  | .missing path => s!"Config file not found: {path}"
  | .unreadable cause => s!"Invalid config: Failed to read config: {cause.message}"
  | .noDirectory cause => s!"Invalid config: Failed to create config dir: {cause.message}"
  | .unwritable cause => s!"Invalid config: Failed to write config: {cause.message}"
  | .remoteUrl reason => s!"Invalid config: {reason}"
  | .grammar => "TOML parse error"
  | .data cause => cause.message
  | .portRange cause => cause.message
  | .logLevel cause => cause.message
  | .artifact path => s!"'{path}' does not exist or is not a regular file"

/-! ## The bridge and direct activation -/

/-- Why an HTTP exchange yielded no complete response. -/
inductive TransportFault
  /-- The address is not one a request can be sent to. -/
  | unsendable (url : String)
  /-- The request was not answered. -/
  | unanswered (url : String)
  /-- The response broke off. -/
  | brokenOff
  deriving DecidableEq, Repr

/-- How the fault is told to a user. -/
def TransportFault.message : TransportFault → String
  | .unsendable url => s!"builder error for url ({url})"
  | .unanswered url => s!"error sending request for url ({url})"
  | .brokenOff => "error decoding response body"

/-- Why the agent could not be told something. -/
inductive BridgeError
  /-- The bridge tool could not be started. -/
  | spawn (label : String) (cause : IoError)
  /-- The bridge tool ran and failed; without a code a signal ended it. -/
  | failed (label : String) (code : Option Int)
  /-- The activation endpoint is no usable URL. -/
  | invalidUrl (url reason : String)
  /-- The endpoint gave no complete response. -/
  | transport (url : String) (cause : TransportFault)
  /-- The endpoint's response is not acceptable. -/
  | unexpectedResponse (url reason : String)
  deriving DecidableEq, Repr

namespace BridgeError

/-- The error told with a given wording of transport faults. -/
def messageWith (tell : TransportFault → String) : BridgeError → String
  | .spawn label cause => s!"Failed to execute '{label}': {cause.message}"
  | .failed label (some code) => s!"'{label}' returned with value {code}"
  | .failed label none => s!"'{label}' returned with value <signal>"
  | .invalidUrl url reason => s!"Invalid remote URL '{url}': {reason}"
  | .transport url cause => s!"Request to {url} failed: {tell cause}"
  | .unexpectedResponse url reason => s!"Unexpected response from {url}: {reason}"

/-- How the error is told to a user. -/
def message (e : BridgeError) : String := e.messageWith TransportFault.message

/-- Whether the fault lies in what the endpoint answered. -/
def isProtocolViolation : BridgeError → Bool
  | .unexpectedResponse _ _ => true
  | _ => false

end BridgeError

/-! ## Tunnels -/

/-- Why no tunnel could be established. -/
inductive TunnelError
  /-- The bridge tool failed, as it would on any other port. -/
  | command (label : String) (cause : BridgeError)
  /-- The only port is of no use. -/
  | portUnavailable (purpose : PortUse) (port : Port)
  /-- No port of the range is of use. -/
  | rangeExhausted (purpose : PortUse) (first last : Port)
  deriving DecidableEq, Repr

namespace TunnelError

/-- The error of a range without a usable port. -/
def exhausted (purpose : PortUse) (range : PortRange) : TunnelError :=
  if range.isSingle then .portUnavailable purpose range.first
  else .rangeExhausted purpose range.first range.last

/-- The error told with a given wording of transport faults. -/
def messageWith (tell : TransportFault → String) : TunnelError → String
  | .command label cause => s!"'{label}' failed: {cause.messageWith tell}"
  | .portUnavailable purpose port => s!"Could not {purpose.verb} port {port}"
  | .rangeExhausted purpose first last =>
    s!"Could not {purpose.verb} any port in range {first}:{last}"

/-- How the error is told to a user. -/
def message (e : TunnelError) : String := e.messageWith TransportFault.message

end TunnelError

/-! ## Sessions -/

/-- Why a session's call failed. -/
inductive SessionError
  /-- The parameters or the artifact are of no use. -/
  | config (cause : ConfigError)
  /-- The artifact could not be pushed. -/
  | push (cause : BridgeError)
  /-- No tunnel could be established. -/
  | tunnel (cause : TunnelError)
  /-- The agent could not be started. -/
  | spawn (cause : BridgeError)
  /-- No attempt to connect met a live agent. -/
  | connectionTimeout (endpoint : String) (attempts : UInt32)
  /-- A connection was refused outright. -/
  | connect (endpoint : String) (cause : IoError)
  /-- The agent ended before it connected. -/
  | remoteDied
  /-- An activation endpoint answered something else than success. -/
  | protocolViolation (cause : BridgeError)
  /-- The call is not allowed in the session's phase. -/
  | invalidState (operation : String) (phase : Phase)
  deriving DecidableEq

namespace SessionError

/-- The error of an activation that failed: the endpoint's answer is to blame,
or the way to it. -/
def ofActivation (e : BridgeError) : SessionError :=
  if e.isProtocolViolation then .protocolViolation e else .spawn e

/-- The error told with a given wording of transport faults. -/
def messageWith (tell : TransportFault → String) : SessionError → String
  | .config cause => s!"Configuration error: {cause.message}"
  | .push cause => s!"Could not push the server: {cause.messageWith tell}"
  | .tunnel cause => s!"Tunnel error: {cause.messageWith tell}"
  | .spawn cause => s!"Could not start the remote agent: {cause.messageWith tell}"
  | .connectionTimeout endpoint attempts =>
    s!"Could not connect to {endpoint} after {attempts} attempts"
  | .connect endpoint cause => s!"Could not connect to {endpoint}: {cause.message}"
  | .remoteDied => "The remote agent died before connecting"
  | .protocolViolation cause => s!"Protocol violation: {cause.messageWith tell}"
  | .invalidState operation phase => s!"Cannot {operation} a session in state {phase.name}"

/-- How the error is told to a user. -/
def message (e : SessionError) : String := e.messageWith TransportFault.message

end SessionError

end DeviceLink
