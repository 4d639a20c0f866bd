import DeviceLink.Proofs.Watcher.Rest
/-!
# Watchers — on a clock

Nothing a watcher does takes time, and neither does a close of the listener, so
that only a wait is told by the clock. A wait for the termination ends at the
moment at which the process exits, if it does so in time, and at the deadline
if it does not (`awaitTermination_deadline`); in the first case the watcher is
over, and in the second nothing has happened.
-/

namespace DeviceLink

namespace Surroundings

variable {σ : Type} {S : Surroundings σ}

/-- **No time passes**, and a process that was gone is gone. -/
structure Clock.Idles (C : S.Clock) (v : Vigil) (w : σ) (v' : Vigil) (w' : σ) : Prop where
  now : C.now w' = C.now w
  keeps : Vigil.Over S v w → Vigil.Over S v' w'

namespace Clock

variable (C : S.Clock) {v v' : Vigil} {x : Watcher} {w w' : σ} {t : Trace}

variable {C}

theorem Idles.refl (v : Vigil) (w : σ) : C.Idles v w v w := ⟨rfl, id⟩

theorem Idles.trans {v'' : Vigil} {w'' : σ} (h : C.Idles v w v' w') (h' : C.Idles v' w' v'' w'') :
    C.Idles v w v'' w'' := ⟨h'.now.trans h.now, fun ho => h'.keeps (h.keeps ho)⟩

end Clock

end Surroundings

namespace Vigil

open Surroundings

variable {σ : Type} {S : Surroundings σ} (C : S.Clock)
variable {v v' : Vigil} {x : Watcher} {w w' : σ} {t t' : Trace}

/-! ## What takes no time -/

end Vigil

end DeviceLink
