import DeviceLink.Surroundings
import DeviceLink.Url.Parser
/-!
# Activation — starting an agent by a request

An agent that is not reached through the bridge is started and stopped by a
request to an endpoint of its own. A response is judged by its body alone: it
may not be too long and has to contain a marker, whatever else it contains and
however it is cut into pieces.
-/

namespace DeviceLink

/-- An endpoint that starts and stops an agent. -/
structure Activator where
  base : Url
  host : Host
  base_host : base.host = some host

namespace Activator

/-- The length of a body that is too long, in bytes. -/
def bodyLimit : Nat := 1024

/-- The endpoint of a URL's text. -/
def ofText (text : String) : Except BridgeError Activator :=
  match Url.parse text.toList with
  | .error fault => .error (.invalidUrl text fault.message)
  | .ok base =>
    match h : base.host with
    | some host => .ok ⟨base, host, h⟩
    | none => .error (.invalidUrl text "missing host")

/-- The host the agent is then reached at. -/
def hostName (a : Activator) : String := String.ofList a.host.bare

/-- The text without the slashes it ends with. -/
def trimSlashes (cs : List Char) : List Char := (cs.reverse.dropWhile (· == '/')).reverse

/-- The text of the URL of an operation. -/
def requestText (a : Activator) (path : String) : String :=
  String.ofList (trimSlashes a.base.render ++ '/' :: path.toList)

/-- How a response reads. -/
inductive Verdict
  /-- The body is too long. -/
  | oversized
  /-- The body broke off. -/
  | brokenOff
  /-- The whole body. -/
  | whole (body : List UInt8)
  deriving DecidableEq, Repr

/-- Collect a body piece by piece onto what came before, up to its limit. -/
def collect (complete : Bool) : List UInt8 → List (List UInt8) → Verdict
  | body, [] => if complete then .whole body else .brokenOff
  | body, chunk :: rest =>
    if bodyLimit ≤ (body ++ chunk).length then .oversized
    else collect complete (body ++ chunk) rest

/-- How a response reads. -/
def judge (r : Response) : Verdict := collect r.complete [] r.chunks

/-- Whether a text stands somewhere in another. -/
def occursIn (part : List Char) : List Char → Bool
  | [] => part.isEmpty
  | c :: r => part.isPrefixOf (c :: r) || occursIn part r

/-- The URL as a request's fault shows it, without its user. -/
def shown (u : Url) : String := String.ofList { u with username := [], password := [] }.render

variable {σ : Type} (S : Surroundings σ)

/-- Get the URL of a text, if a request for it can be sent. -/
def send (url : String) : StateM σ (Except TransportFault Response) :=
  match Url.parse url.toList with
  | .error fault => pure (.error (.unsendable fault.message))
  | .ok u =>
    if u.scheme = "http".toList ∨ u.scheme = "https".toList then S.get u
    else pure (.error (.unsendable (shown u)))

/-- Judge what came of a request. -/
def receive (url : String) : Except TransportFault Response → ExceptT BridgeError (StateM σ) Unit
  | .error fault => throw (.transport url fault)
  | .ok r =>
    match judge r with
    | .oversized => throw (.unexpectedResponse url s!"response exceeds {bodyLimit - 1} bytes")
    | .brokenOff => throw (.transport url .brokenOff)
    | .whole body => do
      let text := Utf8.decodeLossy body
      S.info (String.ofList text)
      if occursIn Agent.successMarker.toList text then pure ()
      else throw (.unexpectedResponse url "missing success marker")

/-- Send one request and judge its response. -/
def request (a : Activator) (path : String) : ExceptT BridgeError (StateM σ) Unit := do
  let url := a.requestText path
  S.info url
  receive S url (← send S url)

/-- Ask for an agent to be started. -/
def start (a : Activator) (p : Params) : ExceptT BridgeError (StateM σ) Unit :=
  a.request S (Agent.startPath p)

/-- Ask for the agent to be stopped. -/
def stop (a : Activator) : ExceptT BridgeError (StateM σ) Unit := a.request S Agent.stopPath

end Activator

end DeviceLink
