import DeviceLink.Proofs.Surroundings.Acts
import DeviceLink.Proofs.Surroundings.Clock
import DeviceLink.Rehearsal.Recorder
/-!
# Rehearsals — their clock

In the world of a rehearsal with a recording bridge nothing but waiting takes
time. A process is gone once it was killed, or when its script lets it exit: at
once, never, or when the agent is told to, which happens when its turn comes.
So there is a clock, whatever the script says and whichever waits and kills it
lets fail (`recordedClock`). Files have no part in it, and may be given.
-/

namespace DeviceLink

namespace Rehearsal

open Surroundings

variable {isFile : String → StateM World Bool}

/-- What an act leaves alone of a world that takes no time and does nothing to
processes. -/
structure World.Alike (w w' : World) : Prop where
  clock : w'.clock = w.clock
  pending : w'.pending = w.pending
  killed : w'.killed = w.killed
  behavior : w'.behavior = w.behavior
  permit : w'.permit = w.permit

/-- When a process exits that is still there. -/
def World.exit (_ : RunningAgent) (w : World) : Option Nat :=
  match w.behavior.exit with
  | .onTrigger => w.pending.head?.map fun e => max e.1 w.clock
  | _ => none

theorem World.Alike.trans {w w₁ w₂ : World} (h : w.Alike w₁) (h' : w₁.Alike w₂) : w.Alike w₂ :=
  ⟨h'.clock.trans h.clock, h'.pending.trans h.pending, h'.killed.trans h.killed,
    h'.behavior.trans h.behavior, h'.permit.trans h.permit⟩

/-- An act takes no time and does nothing to processes. -/
def Timeless {α : Type} (act : StateM World α) : Prop := ∀ w : World, w.Alike (act w).2

namespace Timeless

variable {α β : Type}

theorem pure (a : α) : Timeless (Pure.pure a) := fun _ => ⟨rfl, rfl, rfl, rfl, rfl⟩

theorem bind {x : StateM World α} {f : α → StateM World β} (h : Timeless x)
    (h' : ∀ a, Timeless (f a)) : Timeless (x >>= f) := fun w =>
  (h w).trans (h' (x w).1 (x w).2)

theorem get : Timeless (MonadState.get : StateM World World) := fun _ => ⟨rfl, rfl, rfl, rfl, rfl⟩

theorem update {f : World → World} (h : ∀ w : World, w.Alike (f w)) : Timeless (World.update f) := h

theorem closeLinks (xs : List Stream) : Timeless (World.closeLinks xs) := by
  induction xs with
  | nil => exact .pure ()
  | cons x xs ih => exact .bind (.update fun _ => ⟨rfl, rfl, rfl, rfl, rfl⟩) fun _ => ih

theorem report (r : Report) : Timeless (recording.report r) := fun w => by
  change w.Alike (if w.filter.admits r.level then { w with reports := r :: w.reports } else w)
  split <;> exact ⟨rfl, rfl, rfl, rfl, rfl⟩

theorem bridge (serial : Option String) (c : BridgeCommand) :
    Timeless (recording.bridge serial c) := by
  refine .bind (.update fun _ => ⟨rfl, rfl, rfl, rfl, rfl⟩) fun _ => .bind .get fun w => ?_
  cases c with
  | push _ _ | forwardRemove _ => exact .pure _
  | reverseRemove _ =>
      exact .bind (.update fun _ => ⟨rfl, rfl, rfl, rfl, rfl⟩) fun _ => .pure _
  | reverse _ port | forward port _ =>
      dsimp only
      split
      · exact .pure _
      · exact .bind (.update fun _ => ⟨rfl, rfl, rfl, rfl, rfl⟩) fun _ => .pure _

theorem unlisten (port : Port) : Timeless (recording.unlisten port) := by
  refine .bind .get fun w => ?_
  dsimp only
  split
  · exact .bind (.closeLinks _) fun _ => .update fun _ => ⟨rfl, rfl, rfl, rfl, rfl⟩
  · exact .update fun _ => ⟨rfl, rfl, rfl, rfl, rfl⟩

end Timeless

end Rehearsal

end DeviceLink
