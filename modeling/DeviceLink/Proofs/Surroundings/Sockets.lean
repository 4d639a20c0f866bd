import DeviceLink.Proofs.Surroundings.Trace
/-!
# Surroundings — sockets that are opened and closed

A connection is opened by a connect or an accept and is there until it is
closed; a port that is listened on is taken until it is given up. What is left
of either is a matter of counting: `Leaves` says that whatever was taken was
given back or is left, each as often as it was taken, so that nothing is lost
and nothing is given back twice.
-/

namespace DeviceLink

namespace Surroundings

variable {σ : Type} {S : Surroundings σ} {y y' : σ × Trace}

theorem connect_gives {e : Endpoint} {r : Except IoError Stream}
    (h : S.traced.connect e y = (r, y')) : y'.2 = y.2 ++ [.connect e r] := by
  obtain ⟨rfl, rfl⟩ := Prod.ext_iff.1 h
  rfl

theorem readByte?_gives {stream : Stream} {r : Option (Except IoError (Option UInt8))}
    (h : S.traced.readByte? stream y = (r, y')) : y'.2 = y.2 ++ r.toList.map (.byte stream) := by
  obtain ⟨rfl, rfl⟩ := Prod.ext_iff.1 h
  rfl

end Surroundings

/-- The connection that was opened or accepted. -/
def Event.opened? : Event → Option Stream
  | .connect _ (.ok stream) => some stream
  | .arrival _ (.ok stream) => some stream
  | _ => none

/-- The connection that was closed. -/
def Event.closed? : Event → Option Stream
  | .close stream => some stream
  | _ => none

/-- The port that was listened on. -/
def Event.bound? : Event → Option Port
  | .listen _ (.ok bound) => some bound
  | _ => none

/-- The port that was given up. -/
def Event.freed? : Event → Option Port
  | .unlisten bound => some bound
  | _ => none

namespace Trace

abbrev opened (t : Trace) : List Stream := t.filterMap Event.opened?
abbrev closed (t : Trace) : List Stream := t.filterMap Event.closed?
abbrev bound (t : Trace) : List Port := t.filterMap Event.bound?
abbrev freed (t : Trace) : List Port := t.filterMap Event.freed?

section Leaves

variable {α : Type} {taken back : Event → Option α} {t es : Trace} {left left' : List α}

/-- **What was taken was given back or is left.** -/
def Leaves (taken back : Event → Option α) (t : Trace) (left : List α) : Prop :=
  (t.filterMap taken).Perm (t.filterMap back ++ left)

/-- What is left and what is taken then, is given back then or left. -/
theorem Leaves.append (h : Leaves taken back t left)
    (hes : (left ++ es.filterMap taken).Perm (es.filterMap back ++ left')) :
    Leaves taken back (t ++ es) left' := by
  have hall : (t.filterMap taken ++ es.filterMap taken).Perm
      (t.filterMap back ++ (es.filterMap back ++ left')) := by
    refine (h.append_right _).trans ?_
    rw [List.append_assoc]
    exact hes.append_left _
  rwa [Leaves, List.filterMap_append, List.filterMap_append, List.append_assoc]

/-- The passing of time takes nothing and gives nothing back. -/
theorem Leaves.pass (h : Leaves taken back t left) (htaken : ∀ time, taken (.passed time) = none)
    (hback : ∀ time, back (.passed time) = none) (times : List Nat) :
    Leaves taken back (t ++ times.map .passed) left := by
  have hnone : ∀ {f : Event → Option α}, (∀ time, f (.passed time) = none) →
      (times.map Event.passed).filterMap f = [] := by
    intro f hf
    rw [List.filterMap_map]
    exact List.filterMap_eq_nil_iff.2 fun time _ => hf time
  rw [Leaves, List.filterMap_append, List.filterMap_append, hnone htaken, hnone hback,
    List.append_nil, List.append_nil]
  exact h

end Leaves

/-- Nothing is done to a socket. -/
structure Socketless (es : Trace) : Prop where
  opened : es.opened = []
  closed : es.closed = []
  bound : es.bound = []
  freed : es.freed = []

/-- **The connections that are left open.** -/
abbrev LeavesOpen (t : Trace) (left : List Stream) : Prop :=
  Leaves Event.opened? Event.closed? t left

/-- **The ports that are still listened on.** -/
abbrev LeavesBound (t : Trace) (left : List Port) : Prop := Leaves Event.bound? Event.freed? t left

section

variable {t es : Trace}

theorem LeavesOpen.append {left left' : List Stream} (h : t.LeavesOpen left)
    (hes : (left ++ es.opened).Perm (es.closed ++ left')) : (t ++ es).LeavesOpen left' :=
  Leaves.append h hes

theorem LeavesBound.append {left left' : List Port} (h : t.LeavesBound left)
    (hes : left ++ es.bound = es.freed ++ left') : (t ++ es).LeavesBound left' :=
  Leaves.append h (.of_eq hes)

theorem LeavesOpen.pass {left : List Stream} (h : t.LeavesOpen left)
    (times : List Nat) : LeavesOpen (t ++ times.map .passed) left :=
  Leaves.pass h (fun _ => rfl) (fun _ => rfl) times

theorem LeavesBound.pass {left : List Port} (h : t.LeavesBound left)
    (times : List Nat) : LeavesBound (t ++ times.map .passed) left :=
  Leaves.pass h (fun _ => rfl) (fun _ => rfl) times

end

end Trace

end DeviceLink
