import DeviceLink.Proofs.Watcher.Moves
import DeviceLink.Proofs.Watcher.Waiting
/-!
# Connections — waiting and connecting are quiet

What sets a session up and takes it down again is told to the bridge, sent to
an endpoint or listened on. Nothing else is: whatever is waited for, however
the watcher moves meanwhile and however often a connect is tried, the events
written down are quiet ones. So the trace of these four kinds of events is
read off the few acts of a session that cause them.
-/

namespace DeviceLink

/-- Whether an event tells the bridge nothing, runs and requests nothing and
listens on nothing. -/
def Event.isQuiet : Event → Bool
  | .bridge _ _ _ => false
  | .execute _ _ _ => false
  | .get _ _ => false
  | .listen _ _ => false
  | _ => true

namespace Trace

/-- Every event is quiet. -/
def Quiet (es : Trace) : Prop := ∀ e ∈ es, e.isQuiet = true

theorem quiet_nil : Quiet [] := fun _ h => by cases h

theorem quiet_singleton {e : Event} (h : e.isQuiet = true) : Quiet [e] := by
  intro e' he
  rw [List.mem_singleton.1 he]
  exact h

theorem quiet_append {es es' : Trace} : Quiet (es ++ es') ↔ Quiet es ∧ Quiet es' := by
  simp only [Quiet, List.mem_append]
  exact ⟨fun h => ⟨fun e he => h e (.inl he), fun e he => h e (.inr he)⟩,
    fun h e he => he.elim (h.1 e) (h.2 e)⟩

/-- Events of one kind, each of them quiet. -/
theorem quiet_map {α : Type} {f : α → Event} (h : ∀ a, (f a).isQuiet = true) (as : List α) :
    Quiet (as.map f) := by
  intro e he
  obtain ⟨a, -, rfl⟩ := List.mem_map.1 he
  exact h a

theorem quiet_passed (times : List Nat) : Quiet (times.map .passed) :=
  quiet_map (fun _ => rfl) times

/-- A trace that grew by quiet events only. -/
def Quietly (t t' : Trace) : Prop := ∃ es, t' = t ++ es ∧ Quiet es

theorem Quietly.refl (t : Trace) : Quietly t t := ⟨[], (List.append_nil t).symm, quiet_nil⟩

theorem Quietly.trans {t t' t'' : Trace} (h : Quietly t t') (h' : Quietly t' t'') :
    Quietly t t'' := by
  obtain ⟨es, rfl, hq⟩ := h
  obtain ⟨es', rfl, hq'⟩ := h'
  exact ⟨es ++ es', List.append_assoc t es es', quiet_append.2 ⟨hq, hq'⟩⟩

theorem quietly_append {t es : Trace} (h : Quiet es) : Quietly t (t ++ es) := ⟨es, rfl, h⟩

/-- One quiet event more. -/
theorem quietly_add {t : Trace} {e : Event} (h : e.isQuiet = true) : Quietly t (t ++ [e]) :=
  quietly_append (quiet_singleton h)

end Trace

open Trace

variable {σ : Type} {S : Surroundings σ} {w : σ} {t : Trace}

/-- An act that is written down as quiet events, or not at all. -/
theorem Surroundings.quietly_noted {α : Type} {act : StateM σ α} {note : α → Trace}
    (h : ∀ a, Quiet (note a)) : Quietly t (noted act note (w, t)).2.2 :=
  quietly_append (h _)

namespace Surroundings

theorem quietly_connect (e : Endpoint) : Quietly t (S.traced.connect e (w, t)).2.2 :=
  quietly_noted fun _ => quiet_singleton rfl

theorem quietly_readByte? (s : Stream) : Quietly t (S.traced.readByte? s (w, t)).2.2 :=
  quietly_noted fun r => quiet_map (fun _ => rfl) r.toList

theorem quietly_close (s : Stream) : Quietly t (S.traced.close s (w, t)).2.2 :=
  quietly_noted fun _ => quiet_singleton rfl

theorem quietly_next? (limit : Option Nat) : Quietly t (S.traced.next? limit (w, t)).2.2 :=
  quietly_noted fun r => quiet_map (fun _ => rfl) r.toList

theorem quietly_sleep (time : Nat) : Quietly t (S.traced.sleep time (w, t)).2.2 :=
  quietly_noted fun _ => quiet_singleton rfl

end Surroundings

open Surroundings

/-! ## The watcher -/

/-- What a call on a listener does in a move is quiet. -/
theorem Listener.Call.Does.quietly {id : Nat} {c c' : Call} {l l' : Listener} {x x' : σ × Trace}
    (h : Does id c l x c' l' x') : Quietly x.2 x'.2 := by
  cases h with
  | take _ | refuse _ | drop => exact quietly_add rfl
  | _ => exact Quietly.refl _

/-- The moves of a call on a listener are quiet. -/
theorem Listener.Call.quietly_of_mem_moves {id : Nat} {c : Call} {l : Listener}
    {m : Call × Listener × σ × Trace} (h : m ∈ c.moves S.traced id l (w, t)) :
    Quietly t m.2.2.2 :=
  (moves_does h).quietly

namespace Vigil

/-- **The moves of a watcher are quiet.** -/
theorem Does.quietly {v v' : Vigil} {x : Watcher} {y y' : σ × Trace} (h : Does v x y v' y') :
    Quietly y.2 y'.2 := by
  cases h with
  | call _ _ h => exact h.quietly
  | reap _ | kill _ => exact quietly_add rfl
  | _ => exact Quietly.refl _

theorem quietly_of_mem_moves {v : Vigil} {m : Vigil × σ × Trace}
    (h : m ∈ v.moves S.traced (w, t)) : Quietly t m.2.2 := by
  obtain ⟨_, -, hdoes⟩ := moves_does h
  exact hdoes.quietly

/-! ## Waiting -/

theorem quietly_await_advance (c : Listener.Call) (v : Vigil) :
    Quietly t (await S.traced (advance S.traced) c (v, w, t)).2.2.2 := by
  rcases hr : await S.traced (advance S.traced) c (v, w, t) with ⟨r, v', w', t'⟩
  have h := await_advance_ends (R := fun _ _ x => Quietly t x.2)
    (fun h hm => h.trans (quietly_of_mem_moves hm)) (fun h => h.trans (quietly_next? none))
    (fun h _ hm => h.trans (Listener.Call.quietly_of_mem_moves hm)) (Quietly.refl t) hr
  rcases r with _ | c'
  · obtain ⟨_, h⟩ := h
    exact h
  · exact h.1

theorem quietly_closeListener (v : Vigil) :
    Quietly t (closeListener S.traced (v, w, t)).2.2.2 := by
  have h := quietly_await_advance (S := S) (w := w) (t := t) .closing v
  simp only [closeListener, Act.bind_apply]
  generalize await S.traced (advance S.traced) .closing (v, w, t) = y at h ⊢
  rcases y with ⟨_ | c, x⟩
  · exact h
  · cases c <;> exact h

theorem quietly_accept (v : Vigil) : Quietly t (accept S.traced (v, w, t)).2.2.2 := by
  have h := quietly_await_advance (S := S) (w := w) (t := t) .queued v
  simp only [accept, Act.bind_apply]
  generalize await S.traced (advance S.traced) .queued (v, w, t) = y at h ⊢
  rcases y with ⟨_ | c, x⟩
  · exact h
  · cases c <;> exact h

theorem quietly_passUntil (done : Vigil → Bool) (fuel rest : Nat) (v : Vigil) :
    Quietly t (passUntil S.traced done fuel rest (v, w, t)).2.2.2 :=
  (passUntil_ends (S := S.traced) (P := fun _ x => Quietly t x.2)
    (fun h hm => h.trans (quietly_of_mem_moves hm)) (fun l h => h.trans (quietly_next? l))
    (fun time h => h.trans (quietly_sleep time)) fuel rest (Quietly.refl t) rfl).1

theorem quietly_awaitTermination (limit : Nat) (v : Vigil) :
    Quietly t (awaitTermination S.traced limit (v, w, t)).2.2.2 :=
  quietly_passUntil _ _ _ v

theorem quietly_pause (time : Nat) (v : Vigil) :
    Quietly t (pause S.traced time (v, w, t)).2.2.2 :=
  quietly_passUntil _ _ _ v

theorem quietly_join (v : Vigil) : Quietly t (join S.traced (v, w, t)).2.2.2 := by
  obtain ⟨u, h, -, -⟩ := join_ends (S := S.traced) (P := fun _ x => Quietly t x.2)
    (fun h hm => h.trans (quietly_of_mem_moves hm)) (fun h => h.trans (quietly_next? none))
    (v := v) (w := (w, t)) (Quietly.refl t) rfl
  exact h

end Vigil

/-! ## Connecting -/

namespace Connection

theorem quietly_askByte (s : Stream) (u : Unit) (v : Vigil) :
    Quietly t (askByte S.traced s u (v, w, t)).2.2.2 := by
  have hq := quietly_readByte? (S := S) (w := w) (t := t) s
  simp only [askByte, Act.bind_apply, Vigil.outside_apply]
  rcases hb : S.traced.readByte? s (w, t) with ⟨_ | b, x₁⟩ <;> rw [hb] at hq <;> exact hq

theorem quietly_readByte (s : Stream) (v : Vigil) :
    Quietly t (readByte S.traced s (v, w, t)).2.2.2 := by
  rcases hr : readByte S.traced s (v, w, t) with ⟨r, v', w', t'⟩
  have hask : ∀ {u v x r v' x'}, askByte S.traced s u (v, x) = (r, v', x') →
      Quietly x.2 x'.2 := by
    intro u v x r v' x' h
    have hq := quietly_askByte (S := S) (w := x.1) (t := x.2) s u v
    rw [h] at hq
    exact hq
  have h := Vigil.waitFor_ends (R := fun _ _ x => Quietly t x.2) (Q := fun _ _ x => Quietly t x.2)
    (fun h hm => h.trans (Vigil.quietly_of_mem_moves hm)) (fun h => h.trans (quietly_next? none))
    (fun h ha => h.trans (hask ha)) (fun h ha => h.trans (hask ha)) _ (Quietly.refl t) hr
  rcases r with _ | b
  · obtain ⟨_, h⟩ := h
    exact h
  · exact h

theorem quietly_probeOnce (e : Endpoint) (v : Vigil) :
    Quietly t (probeOnce S.traced e (v, w, t)).2.2.2 := by
  have hc := quietly_connect (S := S) (w := w) (t := t) e
  simp only [probeOnce, act, Trial.bind_apply, Trial.lift_apply, Vigil.outside_apply]
  generalize S.traced.connect e (w, t) = y at hc ⊢
  rcases y with ⟨_ | s, w₁, t₁⟩
  · exact hc
  · have hr := quietly_readByte (S := S) (w := w₁) (t := t₁) s v
    simp only [Trial.bind_apply, Trial.lift_apply]
    generalize readByte S.traced s (v, w₁, t₁) = y at hr ⊢
    rcases y with ⟨_ | _ | _ | _, v₂, w₂, t₂⟩
    · exact hc.trans hr
    · exact (hc.trans hr).trans (quietly_close s)
    · exact (hc.trans hr).trans (quietly_close s)
    · exact hc.trans hr

theorem quietly_attempts (e : Endpoint) (policy : RetryPolicy) :
    ∀ (left : Nat) (v : Vigil) (w : σ) (t : Trace),
      Quietly t (attempts S.traced e policy left (v, w, t)).2.2.2 := by
  intro left
  induction left with
  | zero => intro v w t; exact Quietly.refl t
  | succ left ih =>
      intro v w t
      have hp := quietly_probeOnce (S := S) (w := w) (t := t) e v
      rw [attempts, Trial.bind_apply]
      generalize probeOnce S.traced e (v, w, t) = y at hp ⊢
      rcases y with ⟨_ | _ | s, v₁, w₁, t₁⟩
      · exact hp
      · by_cases hl : (left != 0) = true
        · rw [if_pos hl]
          simp only [Trial.bind_apply, Trial.lift_apply]
          have hs := Vigil.quietly_pause (S := S) (w := w₁) (t := t₁) policy.delay v₁
          exact (hp.trans hs).trans (ih _ _ _)
        · rw [if_neg hl]
          exact hp.trans (ih _ _ _)
      · exact hp

theorem quietly_probe (e : Endpoint) (policy : RetryPolicy) (v : Vigil) :
    Quietly t (probe S.traced e policy (v, w, t)).2.2.2 :=
  quietly_attempts e policy _ v w t

theorem quietly_connect (e : Endpoint) (v : Vigil) :
    Quietly t (connect S.traced e (v, w, t)).2.2.2 := by
  have hc := Surroundings.quietly_connect (S := S) (w := w) (t := t) e
  simp only [connect, act, Trial.bind_apply, Trial.lift_apply, Vigil.outside_apply]
  generalize S.traced.connect e (w, t) = y at hc ⊢
  rcases y with ⟨_ | s, w₁, t₁⟩ <;> exact hc

theorem quietly_accept (v : Vigil) : Quietly t (accept S.traced (v, w, t)).2.2.2 := by
  have ha := Vigil.quietly_accept (S := S) (w := w) (t := t) v
  simp only [accept, Trial.bind_apply, Trial.lift_apply]
  generalize Vigil.accept S.traced (v, w, t) = y at ha ⊢
  rcases y with ⟨_ | _ | s, v₁, w₁, t₁⟩ <;> exact ha

end Connection

end DeviceLink
