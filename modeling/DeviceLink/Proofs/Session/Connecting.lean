import DeviceLink.Proofs.Connection.Quiet
import DeviceLink.Proofs.Tunnel.Walk
/-!
# Sessions — what a connect does

Everything a connect can do to a session that was started: it links the
channels, which is quiet and touches nothing but them and what is shared with
the watcher, and it removes a forward tunnel that is of no more use. A connect
that fails leaves the session started, with its tunnel.
-/

namespace DeviceLink

namespace Session

open Trace

variable {σ : Type} (S : Surroundings σ)

/-! ## Streams -/

/-- The events of a connection closed, if there was one. -/
def closes (x : Option Stream) : Trace := x.toList.map .close

theorem quiet_closes (x : Option Stream) : Quiet (closes x) :=
  quiet_map (fun _ => rfl) x.toList

theorem quiet_channels (s : Session) : Quiet (closes s.video ++ closes s.control) :=
  quiet_append.2 ⟨quiet_closes s.video, quiet_closes s.control⟩

theorem closeStream_apply (x : Option Stream) (s : Session) (w : σ) (t : Trace) :
    ∃ w', closeStream S.traced x (s, w, t) = (.ok (), s, w', t ++ closes x) := by
  cases x with
  | none => exact ⟨w, by rw [closes, Option.toList_none, List.map_nil, List.append_nil]; rfl⟩
  | some x => exact ⟨_, rfl⟩

theorem setVideo_apply (x : Stream) (s : Session) (w : σ) (t : Trace) :
    ∃ w', setVideo S.traced x (s, w, t) =
      (.ok (), { s with video := some x }, w', t ++ closes s.video) := by
  simp only [setVideo, Trial.bind_apply, current_apply, update_apply]
  exact closeStream_apply S s.video { s with video := some x } w t

theorem setControl_apply (x : Stream) (s : Session) (w : σ) (t : Trace) :
    ∃ w', setControl S.traced x (s, w, t) =
      (.ok (), { s with control := some x }, w', t ++ closes s.control) := by
  simp only [setControl, Trial.bind_apply, current_apply, update_apply]
  exact closeStream_apply S s.control { s with control := some x } w t

section

variable {S} {s s' : Session} {y y' : σ × Trace} {x : Stream} {r : Except (Halt SessionError) Unit}

theorem setVideo_gives (hr : setVideo S.traced x (s, y) = (r, s', y')) :
    s' = { s with video := some x } ∧ y'.2 = y.2 ++ closes s.video := by
  obtain ⟨w, t⟩ := y
  obtain ⟨w', hv⟩ := setVideo_apply S x s w t
  cases hv.symm.trans hr
  exact ⟨rfl, rfl⟩

theorem setControl_gives (hr : setControl S.traced x (s, y) = (r, s', y')) :
    s' = { s with control := some x } ∧ y'.2 = y.2 ++ closes s.control := by
  obtain ⟨w, t⟩ := y
  obtain ⟨w', hc⟩ := setControl_apply S x s w t
  cases hc.symm.trans hr
  exact ⟨rfl, rfl⟩

end

/-! ## Links -/

/-- **Linking both channels.** All of it is quiet. A failure comes before
there is a new control connection, but possibly after a new video connection;
being stuck may come at any time. -/
inductive Links (s : Session) : Trace → Except (Halt SessionError) Unit → Session → Prop
  | failed {es : Trace} {e : SessionError} {vigil : Vigil} {video : Option Stream} :
      Quiet es → Links s es (.error (.failed e)) { s with vigil, video }
  | stuck {es : Trace} {vigil : Vigil} {video control : Option Stream} :
      Quiet es → Links s es (.error .stuck) { s with vigil, video, control }
  | linked {es : Trace} {vigil : Vigil} {x y : Stream} :
      Quiet es → Links s es (.ok ()) { s with vigil, video := some x, control := some y }

/-- A link that is not begun. -/
theorem Links.refused {s : Session} (e : SessionError) : Links s [] (.error (.failed e)) s :=
  @Links.failed s [] e s.vigil s.video quiet_nil

/-- A link that gives up before it has a control connection. -/
theorem Links.of_error {s : Session} {es : Trace} (e : Halt SessionError) {vigil : Vigil}
    {video : Option Stream} (h : Quiet es) : Links s es (.error e) { s with vigil, video } := by
  cases e with
  | failed e => exact .failed h
  | stuck => exact @Links.stuck s es vigil video s.control h

/-- Linking the channels is quiet, and touches neither the phase nor the
tunnel. -/
theorem Links.same {s s' : Session} {es : Trace} {r : Except (Halt SessionError) Unit}
    (h : Links s es r s') :
    Quiet es ∧ s'.phase = s.phase ∧ s'.serial = s.serial ∧ s'.activator = s.activator ∧
      s'.tunnel = s.tunnel ∧ s'.tunnelEnabled = s.tunnelEnabled := by
  cases h with
  | failed hq => exact ⟨hq, rfl, rfl, rfl, rfl, rfl⟩
  | stuck hq => exact ⟨hq, rfl, rfl, rfl, rfl, rfl⟩
  | linked hq => exact ⟨hq, rfl, rfl, rfl, rfl, rfl⟩

/-- A call that adds what goes with its outcome. -/
def Does (t : Trace) (D : Trace → Except (Halt SessionError) Unit → Session → Prop)
    (y : Except (Halt SessionError) Unit × Session × σ × Trace) : Prop :=
  ∃ es, y.2.2.2 = t ++ es ∧ D es y.1 y.2.1

theorem connectProbed_links (e : Endpoint) (policy : RetryPolicy) (s : Session) (w : σ)
    (t : Trace) : Does t (Links s) (connectProbed S.traced e policy (s, w, t)) := by
  have h₁ := Connection.quietly_probe (S := S) (w := w) (t := t) e policy s.vigil
  simp only [connectProbed, Trial.bind_apply, attempt_apply]
  generalize Connection.probe S.traced e policy (s.vigil, w, t) = y at h₁ ⊢
  obtain ⟨r, v, w₁, t₁⟩ := y
  rcases r with r | x
  · obtain ⟨es, hes, hq⟩ := h₁
    exact ⟨es, hes, .of_error r hq⟩
  obtain ⟨w₂, hv⟩ := setVideo_apply S x { s with vigil := v } w₁ t₁
  have h₂ := quietly_append (t := t₁) (quiet_closes s.video)
  have h₃ := Connection.quietly_connect (S := S) (w := w₂) (t := t₁ ++ closes s.video) e v
  simp only [hv, attempt_apply]
  generalize Connection.connect S.traced e (v, w₂, t₁ ++ closes s.video) = y at h₃ ⊢
  obtain ⟨r, v', w₃, t₃⟩ := y
  rcases r with r | y
  · obtain ⟨es, hes, hq⟩ := (h₁.trans h₂).trans h₃
    exact ⟨es, hes, .of_error r hq⟩
  obtain ⟨w₄, hc⟩ := setControl_apply S y { s with vigil := v', video := some x } w₃ t₃
  have h₄ := quietly_append (t := t₃) (quiet_closes s.control)
  obtain ⟨es, hes, hq⟩ := ((h₁.trans h₂).trans h₃).trans h₄
  simp only [hc]
  exact ⟨es, hes, .linked hq⟩

theorem connectAccepted_links (s : Session) (w : σ) (t : Trace) :
    Does t (Links s) (connectAccepted S.traced (s, w, t)) := by
  simp only [connectAccepted, Trial.bind_apply, current_apply]
  by_cases hl : s.vigil.listener.isNone = true
  · simp only [hl, if_true]
    exact ⟨[], (List.append_nil t).symm, .refused _⟩
  simp only [hl, Bool.false_eq_true, if_false, Trial.bind_apply, attempt_apply]
  have h₁ := Connection.quietly_accept (S := S) (w := w) (t := t) s.vigil
  generalize Connection.accept S.traced (s.vigil, w, t) = y at h₁ ⊢
  obtain ⟨r, v, w₁, t₁⟩ := y
  rcases r with r | x
  · obtain ⟨es, hes, hq⟩ := h₁
    exact ⟨es, hes, .of_error r hq⟩
  obtain ⟨w₂, hv⟩ := setVideo_apply S x { s with vigil := v } w₁ t₁
  have h₂ := quietly_append (t := t₁) (quiet_closes s.video)
  have h₃ := Connection.quietly_accept (S := S) (w := w₂) (t := t₁ ++ closes s.video) v
  simp only [hv, attempt_apply]
  generalize Connection.accept S.traced (v, w₂, t₁ ++ closes s.video) = y at h₃ ⊢
  obtain ⟨r, v', w₃, t₃⟩ := y
  rcases r with r | y
  · obtain ⟨es, hes, hq⟩ := (h₁.trans h₂).trans h₃
    exact ⟨es, hes, .of_error r hq⟩
  obtain ⟨w₄, hc⟩ := setControl_apply S y { s with vigil := v', video := some x } w₃ t₃
  have h₄ := quietly_append (t := t₃) (quiet_closes s.control)
  have h₅ := Vigil.quietly_closeListener (S := S) (w := w₄) (t := t₃ ++ closes s.control) v'
  simp only [hc, Trial.discard_apply, waiting_apply]
  generalize Vigil.closeListener S.traced (v', w₄, t₃ ++ closes s.control) = y at h₅ ⊢
  obtain ⟨r, v'', w₅, t₅⟩ := y
  obtain ⟨es, hes, hq⟩ := (((h₁.trans h₂).trans h₃).trans h₄).trans h₅
  cases r with
  | none => exact ⟨es, hes, .stuck hq⟩
  | some _ => exact ⟨es, hes, .linked hq⟩

/-! ## Connects -/

/-- **A connect** of a session that was started. -/
inductive Connects (s : Session) : Trace → Except (Halt SessionError) Unit → Session → Prop
  | failed {es : Trace} {e : Halt SessionError} {s' : Session} :
      Links s es (.error e) s' → Connects s es (.error e) s'
  /-- The agent was activated by a request, or its tunnel is a reverse one. -/
  | kept {es : Trace} {s' : Session} :
      s.activator.isSome ∨ (∃ u, s.tunnel = some u ∧ u.direction = .reverse) →
      Links s es (.ok ()) s' → Connects s es (.ok ()) { s' with phase := .connected }
  /-- A forward tunnel is removed once the channels are linked. -/
  | unmapped {es : Trace} {s' : Session} {u : Tunnel} {r : Except BridgeError Unit} :
      s.activator = none → s.tunnel = some u → u.direction = .forward → Links s es (.ok ()) s' →
      Connects s (es ++ [.bridge s.serial u.removal r]) (.ok ())
        { s' with phase := .connected, tunnelEnabled := false }

/-- The session a connect leaves, from the one its channels leave. -/
def concluded (r : Except (Halt SessionError) Unit) (s : Session) : Session :=
  if r.isOk then { s with phase := .connected } else s

theorem connectChannels_connects (s : Session) (w : σ) (t : Trace) :
    Does t (fun es r s' => Connects s es r (s'.concluded r))
      (connectChannels S.traced (s, w, t)) := by
  -- Where the tunnel stays, there is nothing to do but to link the channels.
  have hkept : ∀ {y}, Does (σ := σ) t (Links s) y →
      (s.activator.isSome ∨ ∃ u, s.tunnel = some u ∧ u.direction = .reverse) →
      Does t (fun es r s' => Connects s es r (s'.concluded r)) y := by
    rintro ⟨r, s', x⟩ ⟨es, hes, hl⟩ hk
    rcases r with e | ⟨⟩
    · exact ⟨es, hes, .failed hl⟩
    · exact ⟨es, hes, .kept hk hl⟩
  simp only [connectChannels, Trial.bind_apply, current_apply]
  rcases ha : s.activator with _ | a
  · rcases hu : s.tunnel with _ | u
    · exact ⟨[], (List.append_nil t).symm, .failed (.refused _)⟩
    · dsimp only
      rcases hd : u.direction with _ | _
      · exact hkept (connectAccepted_links S s w t) (.inr ⟨u, hu, hd⟩)
      · obtain ⟨es, hes, hl⟩ := connectProbed_links S (.loopback u.localPort) .forward s w t
        simp only [Trial.bind_apply]
        generalize connectProbed S.traced (.loopback u.localPort) .forward (s, w, t) = y at hes hl ⊢
        obtain ⟨r, s', w', t'⟩ := y
        obtain rfl : t' = t ++ es := hes
        rcases r with e | ⟨⟩
        · exact ⟨es, rfl, .failed hl⟩
        · obtain ⟨r, w'', hr⟩ := Tunnel.disable_apply S s.serial u w' (t ++ es)
          simp only [outside_apply, update_apply, hr]
          exact ⟨_, List.append_assoc .., @Connects.unmapped s es s' u r ha hu hd hl⟩
  · exact hkept (connectProbed_links S ⟨a.hostName, s.portRange.first⟩ .direct s w t)
      (.inl (by rw [ha]; rfl))

/-- **All there is to a connect.** -/
theorem connect_connects {s : Session} (hs : s.phase = .started) (w : σ) (t : Trace) :
    Does t (Connects s) (connect S.traced (s, w, t)) := by
  obtain ⟨es, hes, hc⟩ := connectChannels_connects S s w t
  simp only [connect, expect, Trial.bind_apply, current_apply, hs, ne_eq, not_true, if_false,
    Trial.pure_apply]
  generalize connectChannels S.traced (s, w, t) = y at hes hc ⊢
  obtain ⟨r, s', w', t'⟩ := y
  rcases r with e | ⟨⟩
  · exact ⟨es, hes, hc⟩
  · simp only [update_apply, outside_apply, Surroundings.traced_info]
    exact ⟨es, hes, hc⟩

/-- A connect is refused where the session was not started. -/
theorem connect_refused {s : Session} (hs : s.phase ≠ .started) (x : σ) :
    connect S (s, x) = (.error (.failed (.invalidState "connect" s.phase)), s, x) := by
  simp only [connect, expect, Trial.bind_apply, current_apply, ne_eq, hs, not_false_eq_true,
    if_true, fail_apply]

end Session

end DeviceLink
