import DeviceLink.Bridge.Command
import DeviceLink.Endpoint
import DeviceLink.Error
import DeviceLink.Url.Basic
/-!
# Surroundings — what a session acts on

A session acts on its surroundings and on nothing else: it reports, has the
bridge tool run, listens, connects and waits. `Surroundings σ` lists these acts
over a state `σ` of everything outside the session, which they may change in
any way; what a session does is defined for every choice of them.
-/

namespace DeviceLink

/-- Something told to whoever reads the log. -/
structure Report where
  level : LogLevel
  text : String
  deriving DecidableEq, Repr

/-- A connection, by the number its surroundings know it by. -/
abbrev Stream := Nat

/-- The process of an agent that runs through the bridge. -/
structure RunningAgent where
  /-- The number its surroundings know it by. -/
  handle : Nat
  /-- The number the system knows it by, if it has one. -/
  pid : Option Nat
  deriving DecidableEq, Repr

/-- How a process's number is told. -/
def RunningAgent.pidText : Option Nat → String
  | some pid => s!"Some({pid})"
  | none => "None"

/-- The body of a response, in the pieces it came in. -/
structure Response where
  chunks : List (List UInt8)
  /-- Whether the body came to its end and did not break off. -/
  complete : Bool
  deriving DecidableEq, Repr

/-- The acts a session is made of. An act that has to wait is asked for again
until it gives something. -/
structure Surroundings (σ : Type) where
  /-- Tell something. -/
  report : Report → StateM σ Unit
  /-- Whether a path leads to a regular file. -/
  isFile : String → StateM σ Bool
  /-- Have a bridge command carried out for a device. -/
  bridge : Option String → BridgeCommand → StateM σ (Except BridgeError Unit)
  /-- Run something on a device in the background. -/
  execute : Option String → List String → StateM σ (Except BridgeError RunningAgent)
  /-- What waiting for a process gives, once it has ended. -/
  ended? : RunningAgent → StateM σ (Option (Except IoError Unit))
  /-- End a process. -/
  kill : RunningAgent → StateM σ (Except IoError Unit)
  /-- Send one request for a URL. -/
  get : Url → StateM σ (Except TransportFault Response)
  /-- Listen on a local port; gives the port that is listened on. -/
  listen : Port → StateM σ (Except IoError Port)
  /-- The connection that waits longest to be accepted on a port, or why it
  cannot be accepted. -/
  arrival? : Port → StateM σ (Option (Except IoError Stream))
  /-- No longer listen on a port. -/
  unlisten : Port → StateM σ Unit
  /-- Connect to an address. -/
  connect : Endpoint → StateM σ (Except IoError Stream)
  /-- The next byte of a connection, nothing at its end. -/
  readByte? : Stream → StateM σ (Option (Except IoError (Option UInt8)))
  /-- Read a connection to its end; gives how many bytes came, once it has
  ended. -/
  drain? : Stream → StateM σ (Option Nat)
  /-- Close a connection. -/
  close : Stream → StateM σ Unit
  /-- Let pass the time to the next thing that happens by itself, if it
  happens before so many milliseconds are over; gives that time. -/
  next? : Option Nat → StateM σ (Option Nat)
  /-- Let time pass, in milliseconds. -/
  sleep : Nat → StateM σ Unit
  /-- How many things can still happen by themselves. -/
  horizon : σ → Nat

namespace Surroundings

variable {σ : Type} (S : Surroundings σ)

/-- Tell how something is done. -/
def debug (text : String) : StateM σ Unit := S.report ⟨.debug, text⟩
/-- Tell what happened. -/
def info (text : String) : StateM σ Unit := S.report ⟨.info, text⟩
/-- Tell of a failure that does not matter to the outcome. -/
def warn (text : String) : StateM σ Unit := S.report ⟨.warn, text⟩
/-- Tell of a failure. -/
def error (text : String) : StateM σ Unit := S.report ⟨.error, text⟩

end Surroundings

/-- Why a call gives no value. -/
inductive Halt (ε : Type)
  /-- It failed. -/
  | failed (cause : ε)
  /-- It waits for something that never happens. -/
  | stuck
  deriving DecidableEq

/-- The same with another cause. -/
def Halt.map {ε ε₂ : Type} (f : ε → ε₂) : Halt ε → Halt ε₂
  | .failed cause => .failed (f cause)
  | .stuck => .stuck

end DeviceLink
