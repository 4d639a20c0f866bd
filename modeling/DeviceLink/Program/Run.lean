import DeviceLink.Program.Desk
import DeviceLink.Text.ByteSize
/-!
# Programs — running a session

A session is started and connected, and then held until its video ends or the
user interrupts it. However it ends, it is taken down.
-/

namespace DeviceLink

namespace Program

variable {σ : Type} (D : Desk σ) (S : Surroundings σ)

/-- A part of running a session: it acts on the session and its surroundings,
also when it fails. -/
abbrev Part (σ α : Type) := ExceptT (Halt Failure) (StateM (Session × σ)) α

namespace Part

/-- An act on the surroundings alone. -/
def outside {α : Type} (act : StateM σ α) : Part σ α := fun (s, w) =>
  let (a, w) := act w
  (.ok a, s, w)

/-- A call on the session, with its outcome. -/
def call {α : Type} (c : Session.Call σ α) : Part σ (Except (Halt SessionError) α) :=
  ExceptT.lift c.run

/-- A call on the session that never fails. -/
def surely (c : Session.Call σ Unit) : Part σ Unit := do
  match ← call c with
  | .error .stuck => throw .stuck
  | _ => pure ()

/-- A call on the session after whose failure it is given up, by further calls. -/
def orElse {α : Type} (context : String) (c : Session.Call σ α)
    (giveUp : Part σ Unit) : Part σ α := do
  match ← call c with
  | .ok a => return a
  | .error .stuck => throw .stuck
  | .error (.failed e) =>
    giveUp
    throw (.failed ⟨context, e.causes⟩)

end Part

/-- How the session reaches its agent. -/
def link (p : Params) (s : Session) : String :=
  let port := s.localPort.or (if s.isDirect then some p.portRange.first else none)
  describeLink s.remoteHost s.direction port

/-- Hold the channels until the video ends. Where it never does, the user
interrupts. -/
def hold (video control : Stream) : Part σ Unit := do
  Part.outside (D.notify .hint "Press Ctrl+C to disconnect")
  let drained : StateM (Vigil × σ) (Option Nat) :=
    Vigil.await S (β := Unit) (fun _ => do
      match ← Vigil.outside (S.drain? video) with
      | some count => return .inr count
      | none => return .inl ()) ()
  match ← Part.call (Session.waiting drained) with
  | .ok count => Part.outside (S.info s!"Video stream ended after {ByteSize.render count}")
  | .error _ => Part.outside (S.info "Interrupted, disconnecting")
  Part.outside (S.close control)
  Part.outside (S.close video)

/-- Run a session from its start to its end. -/
def session (artifact : String) (serial : Option String) (p : Params) : Part σ Unit := do
  let stop := Part.surely (Session.stop S)
  let destroy := Part.surely (Session.destroy S)
  Part.orElse "Could not start the session" (Session.start S artifact serial p) destroy
  Part.orElse "Could not connect to the device" (Session.connect S) (do stop; destroy)
  let s ← (fun (s, w) => (.ok s, s, w) : Part σ Session)
  Part.outside (D.notify .success s!"Connected: {link p s}")
  match ← Part.call Session.takeChannels with
  | .ok (some (video, control)) => hold D S video control
  | _ => Part.outside (D.notify .warning "Session has no channels")
  stop
  destroy
  Part.outside (D.notify .hint "Session closed")

end Program

end DeviceLink
