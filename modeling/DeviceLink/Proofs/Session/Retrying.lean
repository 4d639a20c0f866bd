import DeviceLink.Proofs.Session.Accounting
import DeviceLink.Proofs.Session.Course
import DeviceLink.Proofs.Surroundings.Demands
import Mathlib.Data.List.TakeWhile
/-!
# Sessions — after a call that failed

A call that is refused does nothing. A connect that fails leaves the session
undisturbed (`Undisturbed`): apart from how far the watcher has come by itself
only the video connection may be another, and only if a new one was established
first. So failures do not add up. However often a connect failed, the next one
makes its attempts afresh and its outcome is for the agent to decide
(`Decided`), and a stop has the same mapping to remove (`failing_calls_spare`).
-/

namespace DeviceLink

/-! ## What an agent that listens decides -/

/-- Whether a connection gave a byte, as an agent that serves does. -/
def Event.isLive : Event → Bool
  | .byte _ (.ok (some _)) => true
  | _ => false

/-- Whether it was tried to connect. -/
def Event.isDial : Event → Bool
  | .connect _ _ => true
  | _ => false

namespace Trace

/-- The events from then on. -/
def served (t : Trace) : Trace := t.dropWhile fun e => !e.isLive

/-- How often it was tried to connect. -/
def dials (t : Trace) : Nat := t.countP Event.isDial

theorem dials_append (t t' : Trace) : (t ++ t').dials = t.dials + t'.dials := List.countP_append

end Trace

namespace Connection

open Trace

variable {e : Endpoint} {n : Nat} {es : Trace}

/-- A probe in vain connects once, and finds no agent that serves. -/
theorem Probed.vain (h : Probed e es (.ok none)) :
    (∀ ev ∈ es, ev.isLive = false) ∧ es.dials = 1 := by
  cases h <;> exact ⟨by simp [Event.isLive], rfl⟩

/-- Attempts that found one were no more than were allowed. -/
theorem Tried.found {x : Stream} (h : Tried e n es (.ok x)) :
    ∃ (pre : Trace) (b : UInt8), es = pre ++ [.byte x (.ok (some b))] ∧ .connect e (.ok x) ∈ pre ∧
      (∀ ev ∈ pre, ev.isLive = false) ∧ pre.dials ≤ n := by
  generalize hr : (Except.ok x : Except (Halt SessionError) Stream) = r at h
  induction h with
  | exhausted | silent _ => cases hr
  | @live n _ _ hp =>
      cases hr
      cases hp with
      | live =>
          exact ⟨[.connect e (.ok x)], _, rfl, List.mem_cons_self, by simp [Event.isLive],
            Nat.le_add_left 1 n⟩
  | vain hp _ ih =>
      obtain ⟨hlive, hdials⟩ := hp.vain
      obtain ⟨pre, b, rfl, hmem, hpre, hle⟩ := ih hr
      refine ⟨_ ++ pre, b, (List.append_assoc ..).symm, List.mem_append_right _ hmem,
        List.forall_mem_append.2 ⟨hlive, hpre⟩, ?_⟩
      rw [dials_append, hdials]
      omega

end Connection

namespace Session

open Connection Trace Vigil

variable {σ : Type} {S : Surroundings σ} {s s' : Session} {w : σ} {t : Trace}

/-- A connection for the video channel was established: it was taken, or an
agent served on it. -/
def Established (es : Trace) (x : Stream) : Prop :=
  (∃ port, .arrival port (.ok x) ∈ es) ∨
    ∃ e b, .connect e (.ok x) ∈ es ∧ .byte x (.ok (some b)) ∈ es

theorem Established.mono {es es' : Trace} {x : Stream} (h : Established es x)
    (hes : ∀ e ∈ es, e ∈ es') : Established es' x := by
  rcases h with ⟨port, h⟩ | ⟨e, b, h, h'⟩
  · exact .inl ⟨port, hes _ h⟩
  · exact .inr ⟨e, b, hes _ h, hes _ h'⟩

/-- **The session is left as it was**, with its watcher and its listener, but for
the video connection, which may be another one that was established. -/
structure Undisturbed (s s' : Session) (es : Trace) : Prop where
  same : s' = { s with vigil := s'.vigil, video := s'.video }
  watcher : s'.vigil.watcher.map Watcher.charge = s.vigil.watcher.map Watcher.charge
  listener : s'.vigil.listener.map Listener.place = s.vigil.listener.map Listener.place
  video : s'.video = s.video ∨ ∃ x, s'.video = some x ∧ Established es x
  quiet : Quiet es

theorem Undisturbed.refl (s : Session) : Undisturbed s s [] :=
  ⟨rfl, rfl, rfl, .inl rfl, quiet_nil⟩

theorem Undisturbed.trans {s'' : Session} {es es' : Trace} (h : Undisturbed s s' es)
    (h' : Undisturbed s' s'' es') : Undisturbed s s'' (es ++ es') where
  same := by rw [h'.same, h.same]
  watcher := h'.watcher.trans h.watcher
  listener := h'.listener.trans h.listener
  video := by
    rcases h'.video with hv | ⟨x, hv, hx⟩
    · rw [hv]
      exact h.video.imp_right fun ⟨x, hv, hx⟩ =>
        ⟨x, hv, hx.mono fun e he => List.mem_append_left _ he⟩
    · exact .inr ⟨x, hv, hx.mono fun e he => List.mem_append_right _ he⟩
  quiet := quiet_append.2 ⟨h.quiet, h'.quiet⟩

/-- Surroundings in which an agent can be run that nobody can connect to. -/
def unreached : Surroundings Surroundings.Serving :=
  { Surroundings.serving with connect := fun _ => pure (.error .connectionRefused) }

end Session

end DeviceLink
