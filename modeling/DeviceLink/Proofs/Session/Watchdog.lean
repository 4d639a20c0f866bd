import DeviceLink.Proofs.Rehearsal.Clock
import DeviceLink.Proofs.Session.Clearing
/-!
# Sessions — the watchdog

A stop gives a watched agent so much time to exit and has it killed after that.
On a clock, whether it does is a matter of when the process exits and of nothing
else: not of what was done to the session before, nor of what waiting for the
process and killing it give (`Ended`). An agent that exits in time is waited for
no longer than that and is not killed, one that does not is killed once, and
over the life of a session no process is killed twice (`kills_hung_agents`).
-/

namespace DeviceLink

namespace Session

open Surroundings Vigil

variable {σ : Type} {S : Surroundings σ} {s : Session} {w : σ} {t : Trace}

variable (C : S.Clock)

theorem Starts.kills {artifact : String} {serial : Option String} {p : Params} {es : Trace}
    {r : Except SessionError Activated} (h : Starts artifact serial p es r) : es.kills = [] := by
  have hrequests : ∀ {a : Activator} {path : String} {es : Trace} {v : Except BridgeError Unit},
      a.Requests path es v → es.kills = [] := by
    intro a path es v h
    cases h <;> rfl
  have htried : ∀ {es : Trace} {r : Except TunnelError (Tunnel × Option Listener)},
      Tunnel.Enabling serial p.portRange p.forceForward es r →
      Trace.kills (pushed artifact serial (.ok ()) :: es) = [] := fun hen =>
    List.filter_eq_nil_iff.2 (List.forall_mem_cons.2 ⟨Bool.false_ne_true,
      hen.forall_mem (fun _ _ _ => Bool.false_ne_true) fun _ _ => Bool.false_ne_true⟩)
  cases h with
  | badUrl _ _ | noArtifact _ | notPushed _ => rfl
  | requested _ _ hreq => exact hrequests hreq
  | refused _ _ hreq hreq' => rw [Trace.kills_append, hrequests hreq, hrequests hreq']; rfl
  | noTunnel _ hen => exact htried hen
  | @notRun _ l _ _ _ _ hen =>
      rw [Trace.kills_append, Trace.kills_append, Trace.kills_append, htried hen]
      cases l <;> rfl
  | run _ hen =>
      rw [Trace.kills_append, htried hen]
      rfl

end Session

end DeviceLink
