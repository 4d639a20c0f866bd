import DeviceLink.Connection
import DeviceLink.Proofs.Watcher.Moves
import DeviceLink.Proofs.Watcher.Waiting
/-!
# Watchers — what an owner finds after a wait

While an owner waits the watcher moves and time passes, and nothing else
happens. What these two keep is `Steady`. This file says once for each way of
waiting that what is steady holds at its end: for a pause and a wait for a
watcher as it is, for an accept and a close of the listener together with the
moves of the call itself (`Advances`), and for a byte together with the byte.
-/

namespace DeviceLink

namespace Vigil

variable {κ σ : Type} {S : Surroundings σ}

/-- **Kept while an owner waits**: by the watcher's moves and by the time that
passes, whatever it changes outside. -/
structure Steady (R : κ → Vigil → σ × Trace → Prop) : Prop where
  watch : ∀ {k v x y v' y'}, R k v y → v.watcher = some x → Does v x y v' y' → R k v' y'
  pass : ∀ {k v w t} (w' : σ) (times : List Nat), R k v (w, t) →
    R k v (w', t ++ times.map .passed)

/-- Kept by the moves of the owner's own call on the listener. -/
def Advances (R : Listener.Call → Vigil → σ × Trace → Prop) : Prop :=
  ∀ {c v y l c' l' y'}, R c v y → v.listener = some l →
    Listener.Call.Does ownerId c l y c' l' y' → R c' { v with listener := some l' } y'

namespace Steady

section

variable {R : κ → Vigil → σ × Trace → Prop} {k : κ} {v v' : Vigil} {y y' : σ × Trace}

theorem moves (hR : Steady R) (h : R k v y) {m : Vigil × σ × Trace}
    (hm : m ∈ v.moves S.traced y) : R k m.1 m.2 := by
  obtain ⟨x, hx, hdoes⟩ := moves_does hm
  exact hR.watch h hx hdoes

theorem next (hR : Steady R) (h : R k v y) (limit : Option Nat) :
    R k v (S.traced.next? limit y).2 :=
  hR.pass (S.next? limit y.1).2 (S.next? limit y.1).1.toList h

theorem sleep (hR : Steady R) (h : R k v y) (time : Nat) : R k v (S.traced.sleep time y).2 :=
  hR.pass (S.sleep time y.1).2 [time] h

/-- The watcher, left to itself. -/
theorem settled (hR : Steady R) (h : R k v y) :
    R k (v.settled S.traced y).1 (v.settled S.traced y).2 :=
  settled_ends (P := R k) (fun h hm => hR.moves h hm) h

/-- A wait for a time. -/
theorem passUntil (hR : Steady R) (h : R k v y) (done : Vigil → Bool) (fuel rest : Nat) :
    R k (passUntil S.traced done fuel rest (v, y)).2.1
      (passUntil S.traced done fuel rest (v, y)).2.2 :=
  (passUntil_ends (P := R k) (fun h hm => hR.moves h hm) (fun limit h => hR.next h limit)
    (fun time h => hR.sleep h time) fuel rest h rfl).1

theorem pause (hR : Steady R) (h : R k v y) (time : Nat) :
    R k (pause S.traced time (v, y)).2.1 (pause S.traced time (v, y)).2.2 :=
  hR.passUntil h _ _ _

theorem awaitTermination (hR : Steady R) (h : R k v y) (limit : Nat) :
    R k (awaitTermination S.traced limit (v, y)).2.1
      (awaitTermination S.traced limit (v, y)).2.2 :=
  hR.passUntil h _ _ _

/-- A wait for the watcher, which is over then and forgotten. -/
theorem join (hR : Steady R) (h : R k v y) {r : Option Unit}
    (hr : join S.traced (v, y) = (r, v', y')) :
    ∃ u, R k u y' ∧ v' = { u with watcher := none } ∧
      (r.isSome → u.watcher.all (·.stage == .finished) = true) :=
  join_ends (P := R k) (fun h hm => hR.moves h hm) (fun h => hR.next h none) h hr

end

section

variable {R : Listener.Call → Vigil → σ × Trace → Prop} {v v' : Vigil} {y y' : σ × Trace}

/-- A call on the listener. It is of the kind it was, and over unless it waits
for what never happens. -/
theorem advance (hR : Steady R) (hm : Advances R) {c : Listener.Call} (h : R c v y)
    (hl : v.listener.isSome = true) {r : Option Listener.Call}
    (hr : await S.traced (advance S.traced) c (v, y) = (r, v', y')) :
    (∀ c', r = some c' → R c' v' y' ∧ c'.isAccept = c.isAccept ∧ c'.isOver = true) ∧
      (r = none → ∃ c', R c' v' y' ∧ c'.isAccept = c.isAccept) := by
  have hend := await_advance_ends
    (R := fun c' v y => R c' v y ∧ v.listener.isSome = true ∧ c'.isAccept = c.isAccept)
    (fun h hmove => by
      obtain ⟨x, hx, hdoes⟩ := moves_does hmove
      exact ⟨hR.watch h.1 hx hdoes, hdoes.isSome_listener.trans h.2.1, h.2.2⟩)
    (fun h => ⟨hR.next h.1 none, h.2⟩)
    (fun h hl hmove => by
      have hdoes := Listener.Call.moves_does hmove
      exact ⟨hm h.1 hl hdoes, rfl, hdoes.isAccept_eq.trans h.2.2⟩)
    ⟨h, hl, rfl⟩ hr
  refine ⟨fun c' hc => ?_, fun hn => ?_⟩
  · subst hc
    obtain ⟨⟨hR', hl', hkind⟩, hover⟩ := hend
    exact ⟨hR', hkind, hover hl'⟩
  · subst hn
    obtain ⟨c', hR', -, hkind⟩ := hend
    exact ⟨c', hR', hkind⟩

/-- **An accept.** -/
theorem accept (hR : Steady R) (hm : Advances R) (h : R .queued v y)
    (hl : v.listener.isSome = true) {r : Except (Halt SessionError) Stream}
    (hr : Connection.accept S.traced (v, y) = (r, v', y')) :
    match r with
    | .ok stream => R (.accepted (some stream)) v' y'
    | .error (.failed e) =>
      e = .remoteDied ∧ (R (.accepted none) v' y' ∨ ∃ cause, R (.refused cause) v' y')
    | .error .stuck => ∃ c, R c v' y' ∧ c.isAccept = true := by
  simp only [Connection.accept, Vigil.accept, Trial.bind_apply, Trial.lift_apply,
    Act.bind_apply] at hr
  rcases hc : await S.traced (Vigil.advance S.traced) .queued (v, y) with ⟨_ | c', v₁, y₁⟩ <;>
    rw [hc] at hr
  · cases hr
    exact (hR.advance hm h hl hc).2 rfl
  obtain ⟨hR', hkind, hover⟩ := (hR.advance hm h hl hc).1 c' rfl
  cases c' with
  | accepted found =>
      rcases found with _ | stream
      · cases hr; exact ⟨rfl, .inl hR'⟩
      · cases hr; exact hR'
  | refused cause => cases hr; exact ⟨rfl, .inr ⟨cause, hR'⟩⟩
  | queued | accepting => cases hover
  | closing | shutting | waiting | dropping | closed _ => cases hkind

/-- **A close.** -/
theorem closeListener (hR : Steady R) (hm : Advances R) (h : R .closing v y)
    (hl : v.listener.isSome = true) {r : Option Bool}
    (hr : closeListener S.traced (v, y) = (r, v', y')) :
    match r with
    | some first => R (.closed first) v' y'
    | none => ∃ c, R c v' y' ∧ c.isAccept = false := by
  simp only [Vigil.closeListener, Act.bind_apply] at hr
  rcases hc : await S.traced (Vigil.advance S.traced) .closing (v, y) with ⟨_ | c', v₁, y₁⟩ <;>
    rw [hc] at hr
  · cases hr
    exact (hR.advance hm h hl hc).2 rfl
  obtain ⟨hR', hkind, hover⟩ := (hR.advance hm h hl hc).1 c' rfl
  cases c' with
  | closed first => cases hr; exact hR'
  | queued | accepting | accepted _ | refused _ => cases hkind
  | closing | shutting | waiting | dropping => cases hover

end

section

variable {R : Option (Except IoError (Option UInt8)) → Vigil → σ × Trace → Prop}
variable {v v' : Vigil} {y y' : σ × Trace}

/-- **A wait for a byte**, which is written down once it is there. -/
theorem readByte (hR : Steady R) {s : Stream}
    (hb : ∀ {v w t} (w' : σ) (b : Except IoError (Option UInt8)), R none v (w, t) →
      R (some b) v (w', t ++ [.byte s b]))
    (h : R none v y) {r : Option (Except IoError (Option UInt8))}
    (hr : Connection.readByte S.traced s (v, y) = (r, v', y')) : R r v' y' := by
  have hask : ∀ {u : Unit} {v : Vigil} {y : σ × Trace} {b : Unit ⊕ Except IoError (Option UInt8)}
      {v' : Vigil} {y' : σ × Trace}, R none v y →
      Connection.askByte S.traced s u (v, y) = (b, v', y') →
      b.elim (fun _ => R none v' y') (fun b => R (some b) v' y') := by
    rintro u v ⟨w, t⟩ b v' y' h ha
    have hread : S.traced.readByte? s (w, t) = ((S.readByte? s w).1, (S.readByte? s w).2,
      t ++ (S.readByte? s w).1.toList.map (.byte s)) := rfl
    simp only [Connection.askByte, Act.bind_apply, outside_apply, hread] at ha
    rcases hbyte : S.readByte? s w with ⟨_ | b', w'⟩ <;> rw [hbyte] at ha
    · cases ha
      exact hR.pass w' [] h
    · cases ha
      exact hb w' b' h
  have hend := waitFor_ends (R := fun _ => R none) (Q := fun b => R (some b))
    (fun h hm => hR.moves h hm) (fun h => hR.next h none)
    (fun h ha => hask h ha) (fun h ha => hask h ha) _ h hr
  cases r with
  | none => obtain ⟨-, hn⟩ := hend; exact hn
  | some b => exact hend

end

end Steady

end Vigil

end DeviceLink
