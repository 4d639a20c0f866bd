import DeviceLink.Proofs.Session.Connecting
import DeviceLink.Proofs.Session.Starting
/-!
# Sessions — what a stop does

Everything a stop can do to a session that runs: between what is quiet it
undoes the activation, once, by a request or by the removal of the tunnel if
that is still in place. A stop never fails; it may be stuck, while it closes
the listener or while it waits for the watcher.
-/

namespace DeviceLink

namespace Session

open Trace

variable {σ : Type} (S : Surroundings σ)

/-- **Undoing the activation.** -/
inductive Undoes (s : Session) : Trace → Prop
  /-- The endpoint is asked to stop the agent. -/
  | requested {a : Activator} {es : Trace} {v : Except BridgeError Unit} :
      s.activator = some a → a.Requests Agent.stopPath es v → Undoes s es
  | removed {u : Tunnel} {r : Except BridgeError Unit} :
      s.activator = none → s.tunnelEnabled = true → s.tunnel = some u →
      Undoes s [.bridge s.serial u.removal r]
  | nothing :
      s.activator = none → (s.tunnelEnabled = true → s.tunnel = none) → Undoes s []

/-- A session whose activation was undone and whose channels were closed. -/
def dismantled (s : Session) (phase : Phase) (vigil : Vigil) : Session :=
  { s with
    phase, vigil
    video := none
    control := none
    tunnelEnabled := s.tunnelEnabled && s.activator.isSome }

/-- **A stop** of a session that runs. -/
inductive Stops (s : Session) : Trace → Except (Halt SessionError) Unit → Session → Prop
  /-- It is stuck before the activation is undone. -/
  | stuckClosing {es : Trace} {vigil : Vigil} :
      Quiet es → Stops s es (.error .stuck) { s with phase := .stopping, vigil }
  /-- It is stuck after the activation was undone. -/
  | stuckWaiting {es un es' : Trace} {vigil : Vigil} :
      Quiet es → Undoes s un → Quiet es' →
      Stops s (es ++ un ++ es') (.error .stuck) (s.dismantled .stopping vigil)
  | stopped {es un es' : Trace} {vigil : Vigil} :
      Quiet es → Undoes s un → Quiet es' → vigil.listener = none → vigil.watcher = none →
      Stops s (es ++ un ++ es') (.ok ()) (s.dismantled .stopped vigil)

/-! ## The parts of a stop -/

theorem closeChannels_apply (s : Session) (w : σ) (t : Trace) :
    ∃ w', closeChannels S.traced (s, w, t) =
      (.ok (), { s with video := none, control := none }, w',
        t ++ (closes s.video ++ closes s.control)) := by
  obtain ⟨w₁, h₁⟩ := closeStream_apply S s.video s w t
  obtain ⟨w₂, h₂⟩ := closeStream_apply S s.control s w₁ (t ++ closes s.video)
  simp only [closeChannels, Trial.bind_apply, current_apply, h₁, h₂, update_apply,
    List.append_assoc]
  exact ⟨w₂, rfl⟩

theorem deactivate_undoes (s : Session) (w : σ) (t : Trace) :
    ∃ un w', deactivate S.traced (s, w, t) =
      (.ok (), { s with tunnelEnabled := s.tunnelEnabled && s.activator.isSome }, w', t ++ un) ∧
      Undoes s un := by
  obtain ⟨phase, serial, range, activator, tunnel, enabled, vigil, video, control⟩ := s
  simp only [deactivate, Trial.bind_apply, current_apply]
  rcases activator with _ | a
  · rcases enabled with _ | _
    · exact ⟨[], w, by rw [List.append_nil]; rfl, .nothing rfl fun h => by cases h⟩
    · rcases tunnel with _ | u
      · exact ⟨[], w, by rw [List.append_nil]; rfl, .nothing rfl fun _ => rfl⟩
      · obtain ⟨r, w', hr⟩ := Tunnel.disable_apply S serial u w t
        refine ⟨_, w', ?_, .removed (r := r) rfl rfl rfl⟩
        simp only [if_true, Trial.bind_apply, outside_apply, hr, update_apply, Option.isSome_none,
          Bool.and_false]
  · obtain ⟨es, hes, hreq⟩ := a.request_requests S Agent.stopPath w t
    simp only [outside_apply, Act.bind_apply, Trial.run_apply, Activator.stop]
    generalize a.request S.traced Agent.stopPath (w, t) = y at hes hreq ⊢
    obtain ⟨v, w₁, t₁⟩ := y
    obtain rfl : t₁ = t ++ es := hes
    obtain ⟨w₂, hn⟩ := noteStop_apply S v w₁ (t ++ es)
    refine ⟨es, w₂, ?_, .requested rfl hreq⟩
    simp only [hn, Option.isSome_some, Bool.and_true]

section

variable {S} {s s' : Session} {y y' : σ × Trace} {r : Except (Halt SessionError) Unit}

theorem closeChannels_gives (hr : closeChannels S.traced (s, y) = (r, s', y')) :
    s' = { s with video := none, control := none } ∧
      y'.2 = y.2 ++ (closes s.video ++ closes s.control) := by
  obtain ⟨w, t⟩ := y
  obtain ⟨w', hc⟩ := closeChannels_apply S s w t
  cases hc.symm.trans hr
  exact ⟨rfl, rfl⟩

theorem deactivate_gives (hr : deactivate S.traced (s, y) = (r, s', y')) :
    s' = { s with tunnelEnabled := s.tunnelEnabled && s.activator.isSome } ∧
      ∃ un, y'.2 = y.2 ++ un ∧ Undoes s un := by
  obtain ⟨w, t⟩ := y
  obtain ⟨un, w', hd, hun⟩ := deactivate_undoes S s w t
  cases hd.symm.trans hr
  exact ⟨rfl, un, rfl, hun⟩

end

/-- The wait for the watcher at the end of a stop. -/
theorem endWatch_apply (kill : Bool) (s : Session) (w : σ) (t : Trace) :
    ∃ r vigil w' t', endWatch S.traced kill (s, w, t) = (r, { s with vigil }, w', t') ∧
      Quietly t t' ∧ vigil.watcher = none ∧ (r = .ok () ∨ r = .error .stuck) := by
  have hwait : ∀ s : Session, ∃ r vigil w' t',
      waiting (Vigil.join S.traced) (s, w, t) = (r, { s with vigil }, w', t') ∧
        Quietly t t' ∧ vigil.watcher = none ∧ (r = .ok () ∨ r = .error .stuck) := by
    intro s
    have hq := Vigil.quietly_join (S := S) (w := w) (t := t) s.vigil
    rw [waiting_apply]
    rcases hj : Vigil.join S.traced (s.vigil, w, t) with ⟨r, v, w', t'⟩
    rw [hj] at hq
    obtain ⟨u, -, rfl, -⟩ := Vigil.join_ends (P := fun _ _ => True) (fun _ _ => trivial)
      (fun _ => trivial) trivial hj
    refine ⟨_, _, w', t', rfl, hq, rfl, ?_⟩
    cases r with
    | none => exact .inr rfl
    | some _ => exact .inl rfl
  cases kill with
  | false =>
      simp only [endWatch, Bool.false_eq_true, if_false]
      exact hwait s
  | true =>
      simp only [endWatch, if_true, Trial.bind_apply, update_apply]
      exact hwait { s with vigil := s.vigil.askKill }

/-! ## Stops -/

theorem stopListening_apply (s : Session) (w : σ) (t : Trace) :
    ∃ r vigil w' t', stopListening S.traced (s, w, t) = (r, { s with vigil }, w', t') ∧
      Quietly t t' ∧ (r = .ok () ∨ r = .error .stuck) := by
  simp only [stopListening, Trial.bind_apply, current_apply]
  split
  · have hq := Vigil.quietly_closeListener (S := S) (w := w) (t := t) s.vigil
    rw [Trial.discard_apply, waiting_apply]
    generalize Vigil.closeListener S.traced (s.vigil, w, t) = y at hq ⊢
    obtain ⟨_ | r, v, w', t'⟩ := y
    · exact ⟨_, v, w', t', rfl, hq, .inr rfl⟩
    · exact ⟨_, v, w', t', rfl, hq, .inl rfl⟩
  · exact ⟨_, s.vigil, w, t, rfl, Quietly.refl t, .inl rfl⟩

theorem awaitAgent_apply (s : Session) (w : σ) (t : Trace) :
    ∃ r vigil w' t', awaitAgent S.traced (s, w, t) = (r, { s with vigil }, w', t') ∧
      Quietly t t' ∧ vigil.watcher = none ∧ (r = .ok () ∨ r = .error .stuck) := by
  simp only [awaitAgent, Trial.bind_apply, current_apply]
  rcases hw : s.vigil.watcher with _ | x
  · exact ⟨_, s.vigil, w, t, rfl, Quietly.refl t, hw, .inl rfl⟩
  simp only [Option.isSome_some, if_true, Trial.bind_apply, waiting_apply, Act.map_apply,
    Option.elim_some]
  have hq := Vigil.quietly_awaitTermination (S := S) (w := w) (t := t) watchdogDelay s.vigil
  generalize Vigil.awaitTermination S.traced watchdogDelay (s.vigil, w, t) = y at hq ⊢
  obtain ⟨ended, v, w₁, t₁⟩ := y
  cases ended with
  | true =>
      obtain ⟨r, v', w', t', he, hq', hn, hr⟩ := endWatch_apply S false { s with vigil := v } w₁ t₁
      exact ⟨r, v', w', t', he, hq.trans hq', hn, hr⟩
  | false =>
      simp only [Bool.not_false, if_true, Trial.bind_apply, outside_apply,
        Surroundings.traced_warn]
      obtain ⟨r, v', w', t', he, hq', hn, hr⟩ := endWatch_apply S true { s with vigil := v } _ t₁
      exact ⟨r, v', w', t', he, hq.trans hq', hn, hr⟩

/-- A session that runs is taken down. -/
theorem stop_eq_tearDown {s : Session} (hs : s.phase = .started ∨ s.phase = .connected) (x : σ) :
    stop S (s, x) = tearDown S (s, x) := by
  simp only [stop, Trial.bind_apply, current_apply]
  rcases hs with hs | hs <;> rw [hs]

/-- **All there is to a stop.** -/
theorem stop_stops {s : Session} (hs : s.phase = .started ∨ s.phase = .connected) (w : σ)
    (t : Trace) : Does t (Stops s) (stop S.traced (s, w, t)) := by
  rw [stop_eq_tearDown S.traced hs]
  obtain ⟨r₁, v₁, w₁, t₁, h₁, ⟨es, rfl, hq₁⟩, hr₁⟩ :=
    stopListening_apply S { s with phase := .stopping } w t
  simp only [tearDown, Trial.bind_apply, update_apply, h₁]
  -- A stop that is stuck over the listener has undone nothing yet.
  rcases hr₁.symm with rfl | rfl
  · exact ⟨es, rfl, .stuckClosing hq₁⟩
  obtain ⟨w₂, h₂⟩ :=
    closeChannels_apply S { s with phase := .stopping, vigil := v₁ } w₁ (t ++ es)
  have hq₂ := quiet_channels s
  dsimp only at h₂
  generalize closes s.video ++ closes s.control = es₂ at h₂ hq₂
  obtain ⟨un, w₃, h₃, hun⟩ := deactivate_undoes S
    { s with phase := .stopping, vigil := v₁, video := none, control := none } w₂ (t ++ es ++ es₂)
  obtain ⟨r₄, v₄, w₄, t₄, h₄, ⟨es₄, rfl, hq₄⟩, hn, hr₄⟩ := awaitAgent_apply S
    (s.dismantled .stopping v₁) w₃ (t ++ es ++ es₂ ++ un)
  have hun : Undoes s un := by
    cases hun with
    | requested ha hreq => exact .requested ha hreq
    | removed ha he hu => exact .removed ha he hu
    | nothing ha he => exact .nothing ha he
  have hq : Quiet (es ++ es₂) := quiet_append.2 ⟨hq₁, hq₂⟩
  have hassoc : t ++ es ++ es₂ ++ un ++ es₄ = t ++ (es ++ es₂ ++ un ++ es₄) := by
    simp only [List.append_assoc]
  simp only [dismantled] at h₄
  simp only [h₂, h₃, h₄]
  rcases hr₄ with rfl | rfl
  · simp only [outside_apply, update_apply, Surroundings.traced_info]
    exact ⟨_, hassoc, @Stops.stopped s _ un es₄ { v₄ with listener := none } hq hun hq₄ rfl hn⟩
  · exact ⟨_, hassoc, .stuckWaiting hq hun hq₄⟩

/-- There is nothing to stop in an idle session. -/
theorem stop_idle {s : Session} (hs : s.phase = .idle) (x : σ) :
    stop S (s, x) = (.ok (), s, x) := by
  simp only [stop, Trial.bind_apply, current_apply, hs]
  rfl

/-- A stop in any other phase is told and not done. -/
theorem stop_other {s : Session} (hs : s.phase ≠ .started) (hc : s.phase ≠ .connected) (w : σ)
    (t : Trace) : ∃ w', stop S.traced (s, w, t) = (.ok (), s, w', t) := by
  have htold : ∀ text : String, ∃ w',
      outside (S.traced.warn text) (s, w, t) = (.ok (), s, w', t) := fun text =>
    ⟨_, by rw [outside_apply, Surroundings.traced_warn]⟩
  simp only [stop, Trial.bind_apply, current_apply]
  cases hp : s.phase with
  | started => exact absurd hp hs
  | connected => exact absurd hp hc
  | idle => exact ⟨w, rfl⟩
  | starting => exact htold _
  | stopping => exact htold _
  | stopped => exact htold _
  | destroyed => exact htold _

end Session

end DeviceLink
