import DeviceLink.Retry
import DeviceLink.Watcher
/-!
# Connections — reaching an agent that listens

A connect alone may succeed while nobody serves behind it. An agent that
serves writes one byte first, so a connection counts once that byte was read.
Until then attempts are repeated, with a pause between two of them.
-/

namespace DeviceLink

namespace Connection

variable {σ : Type} (S : Surroundings σ)

/-- A call that may fail, with the watcher at work while it waits. -/
abbrev Attempt (σ α : Type) := ExceptT (Halt SessionError) (StateM (Vigil × σ)) α

/-- An act on the surroundings, as part of such a call. -/
def act {α : Type} (x : StateM σ α) : Attempt σ α := ExceptT.lift (Vigil.outside x)

/-- Ask for the next byte. -/
def askByte (stream : Stream) (_ : Unit) :
    StateM (Vigil × σ) (Unit ⊕ Except IoError (Option UInt8)) := do
  match ← Vigil.outside (S.readByte? stream) with
  | some found => return .inr found
  | none => return .inl ()

/-- Read the next byte, waiting for it. -/
def readByte (stream : Stream) : StateM (Vigil × σ) (Option (Except IoError (Option UInt8))) :=
  Vigil.await S (askByte S stream) ()

/-- Connect and read the byte of a live agent. Gives no connection when there
is none, and closes one that turns out not to be served. -/
def probeOnce (e : Endpoint) : Attempt σ (Option Stream) := do
  match ← act (S.connect e) with
  | .error _ => return none
  | .ok stream =>
    match ← ExceptT.lift (readByte S stream) with
    | some (.ok (some _)) => return some stream
    | some _ =>
      act (S.close stream)
      return none
    | none => throw .stuck

/-- Make a number of attempts, with a pause after each but the last. -/
def attempts (e : Endpoint) (policy : RetryPolicy) : Nat → Attempt σ Stream
  | 0 => throw (.failed (.connectionTimeout e.render policy.tries))
  | left + 1 => do
    match ← probeOnce S e with
    | some stream => return stream
    | none =>
      if left != 0 then ExceptT.lift (Vigil.pause S policy.delay)
      attempts e policy left

/-- Connect to a live agent, trying as often as the policy allows. -/
def probe (e : Endpoint) (policy : RetryPolicy) : Attempt σ Stream :=
  attempts S e policy policy.tries.toNat

/-- Connect once, without looking for a live agent. -/
def connect (e : Endpoint) : Attempt σ Stream := do
  match ← act (S.connect e) with
  | .ok stream => return stream
  | .error cause => throw (.failed (.connect e.render cause))

/-- Accept a connection of the agent. That the listener is closed means that
the agent is gone. -/
def accept : Attempt σ Stream := do
  match ← ExceptT.lift (Vigil.accept S) with
  | some (some stream) => return stream
  | some none => throw (.failed .remoteDied)
  | none => throw .stuck

end Connection

end DeviceLink
