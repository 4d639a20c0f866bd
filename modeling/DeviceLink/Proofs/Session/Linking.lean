import DeviceLink.Proofs.Connection.Traffic
import DeviceLink.Proofs.Session.Connecting
/-!
# Sessions — the traffic of a connect

Over whatever way the agent was activated, a connect opens the video connection
and then the control connection, each in place of one that an earlier connect
may have left (`Pairs`). `Linking` says how, for a session as it was started:
which endpoint is connected to or which port is accepted on is read off the
session, and nothing else is.
-/

namespace DeviceLink

namespace Session

open Connection Trace Vigil

variable {σ : Type} (S : Surroundings σ)

@[simp] theorem traffic_closes (x : Option Stream) : (closes x).traffic = closes x := by
  cases x <;> rfl

@[simp] theorem kills_closes (x : Option Stream) : (closes x).kills = [] := by
  cases x <;> rfl

/-- **Two connections, one after the other**, the first opened in one way and
the second in another. A new one takes the place of an old one, which is closed.
It may be stuck when both are open, over what is left to do then. -/
inductive Pairs (A B : Trace → Except (Halt SessionError) Stream → Prop)
    (old old' : Option Stream) :
    Trace → Except (Halt SessionError) Unit → Option Stream → Option Stream → Prop
  | noVideo {es : Trace} {e : Halt SessionError} :
      A es (.error e) → Pairs A B old old' es (.error e) old old'
  | noControl {es es' : Trace} {e : Halt SessionError} {x : Stream} :
      A es (.ok x) → B es' (.error e) →
      Pairs A B old old' (es ++ closes old ++ es') (.error e) (some x) old'
  | both {es es' : Trace} {x y : Stream} {r : Except (Halt SessionError) Unit} :
      A es (.ok x) → B es' (.ok y) → r = .ok () ∨ r = .error .stuck →
      Pairs A B old old' (es ++ closes old ++ es' ++ closes old') r (some x) (some y)

/-- **How a session is linked**, with the traffic, the outcome and the channels
that the session holds then. -/
inductive Linking (s : Session) :
    Trace → Except (Halt SessionError) Unit → Option Stream → Option Stream → Prop
  /-- To an agent that was activated by a request. -/
  | direct {a : Activator} {es : Trace} {r : Except (Halt SessionError) Unit}
      {x y : Option Stream} :
      s.activator = some a →
      Pairs (Tried ⟨a.hostName, s.portRange.first⟩ RetryPolicy.direct.tries.toNat)
        (Dialed ⟨a.hostName, s.portRange.first⟩) s.video s.control es r x y →
      Linking s es r x y
  /-- Through a forward tunnel. -/
  | forward {u : Tunnel} {es : Trace} {r : Except (Halt SessionError) Unit}
      {x y : Option Stream} :
      s.activator = none → s.tunnel = some u → u.direction = .forward →
      Pairs (Tried (.loopback u.localPort) RetryPolicy.forward.tries.toNat)
        (Dialed (.loopback u.localPort)) s.video s.control es r x y →
      Linking s es r x y
  /-- By an agent behind a reverse tunnel. -/
  | reverse {u : Tunnel} {l : Listener} {es : Trace} {r : Except (Halt SessionError) Unit}
      {x y : Option Stream} :
      s.activator = none → s.tunnel = some u → u.direction = .reverse →
      s.vigil.listener = some l →
      Pairs (Accepted l.bound) (Accepted l.bound) s.video s.control es r x y →
      Linking s es r x y
  /-- There is nothing to accept on. -/
  | unheard {u : Tunnel} :
      s.activator = none → s.tunnel = some u → u.direction = .reverse →
      s.vigil.listener = none →
      Linking s [] (.error (.failed .remoteDied)) s.video s.control
  /-- There is no tunnel. -/
  | untunnelled :
      s.activator = none → s.tunnel = none →
      Linking s [] (.error (.failed (.invalidState "connect" s.phase))) s.video s.control

/-- A call that keeps the vigil, with traffic that goes with its outcome and
with the channels it leaves. -/
def Conveys (s : Session) (t : Trace)
    (D : Trace → Except (Halt SessionError) Unit → Option Stream → Option Stream → Prop)
    (y : Except (Halt SessionError) Unit × Session × σ × Trace) : Prop :=
  ∃ es, s.vigil.Kept t es y.2.1.vigil y.2.2 ∧ D es y.1 y.2.1.video y.2.1.control

theorem connectProbed_conveys {s : Session} (hs : Sound s.vigil) (e : Endpoint)
    (policy : RetryPolicy) (w : σ) (t : Trace) :
    s.Conveys t (Pairs (Tried e policy.tries.toNat) (Dialed e) s.video s.control)
      (connectProbed S.traced e policy (s, w, t)) := by
  obtain ⟨es, hk, hA⟩ := probe_carries S hs e policy w t
  simp only [connectProbed, Trial.bind_apply, attempt_apply]
  generalize probe S.traced e policy (s.vigil, w, t) = y at hk hA ⊢
  obtain ⟨h | x, v₁, w₁, t₁⟩ := y
  · exact ⟨es, hk, .noVideo hA⟩
  obtain ⟨w₂, hset⟩ := setVideo_apply S x { s with vigil := v₁ } w₁ t₁
  have hk₂ := hk.beside w₂ _ (kills_closes s.video)
  obtain ⟨es', hk', hB⟩ := connect_carries S e v₁ w₂ (t₁ ++ closes s.video)
  simp only [hset, attempt_apply]
  generalize Connection.connect S.traced e (v₁, w₂, t₁ ++ closes s.video) = y at hk' hB ⊢
  obtain ⟨h | y, v₃, w₃, t₃⟩ := y
  · rw [traffic_closes] at hk₂
    exact ⟨_, hk₂.trans hk', .noControl hA hB⟩
  obtain ⟨w₄, hset⟩ := setControl_apply S y { s with vigil := v₃, video := some x } w₃ t₃
  have hk₄ := (hk₂.trans hk').beside w₄ _ (kills_closes s.control)
  simp only [hset]
  rw [traffic_closes, traffic_closes] at hk₄
  exact ⟨_, hk₄, .both hA hB (.inl rfl)⟩

theorem connectAccepted_conveys {s : Session} (hs : Sound s.vigil) {l : Listener}
    (hl : s.vigil.listener = some l) (w : σ) (t : Trace) :
    s.Conveys t (Pairs (Accepted l.bound) (Accepted l.bound) s.video s.control)
      (connectAccepted S.traced (s, w, t)) := by
  -- The listener stays in its place, whatever happens to it.
  have hplace : ∀ {t t' es : Trace} {v : Vigil} {w : σ}, s.vigil.Kept t es v (w, t') →
      ∃ k, v.listener = some k ∧ k.bound = l.bound := by
    rintro t t' es v w ⟨_, -, hk, -⟩
    have hplace := hk.listener
    rw [hl] at hplace
    obtain ⟨k, hk, hplace⟩ := Option.map_eq_some_iff.1 hplace
    exact ⟨k, hk, congrArg Prod.snd hplace⟩
  simp only [connectAccepted, Trial.bind_apply, current_apply, hl, Option.isNone_some,
    Bool.false_eq_true, if_false, attempt_apply]
  obtain ⟨es, hk, hA⟩ := accept_carries S hs hl w t
  generalize Connection.accept S.traced (s.vigil, w, t) = y at hk hA ⊢
  obtain ⟨h | x, v₁, w₁, t₁⟩ := y
  · exact ⟨es, hk, .noVideo hA⟩
  obtain ⟨w₂, hset⟩ := setVideo_apply S x { s with vigil := v₁ } w₁ t₁
  have hk₂ := hk.beside w₂ _ (kills_closes s.video)
  rw [traffic_closes] at hk₂
  obtain ⟨l₁, hl₁, hbound⟩ := hplace hk₂
  obtain ⟨es', hk', hB⟩ := accept_carries S (hk₂.sound hs) hl₁ w₂ (t₁ ++ closes s.video)
  rw [hbound] at hB
  simp only [hset, attempt_apply]
  generalize Connection.accept S.traced (v₁, w₂, t₁ ++ closes s.video) = y at hk' hB ⊢
  obtain ⟨h | y, v₃, w₃, t₃⟩ := y
  · exact ⟨_, hk₂.trans hk', .noControl hA hB⟩
  obtain ⟨w₄, hset⟩ := setControl_apply S y { s with vigil := v₃, video := some x } w₃ t₃
  have hk₄ := (hk₂.trans hk').beside w₄ _ (kills_closes s.control)
  rw [traffic_closes] at hk₄
  obtain ⟨l₃, hl₃, -⟩ := hplace hk₄
  obtain ⟨_, hk₅, rfl⟩ := closeListener_carries S (hk₄.sound hs) (by rw [hl₃]; rfl) w₄
    (t₃ ++ closes s.control)
  simp only [hset, Trial.discard_apply, waiting_apply]
  generalize closeListener S.traced (v₃, w₄, t₃ ++ closes s.control) = y at hk₅ ⊢
  obtain ⟨r, v₅, w₅, t₅⟩ := y
  have hk₆ := hk₄.trans hk₅
  rw [List.append_nil] at hk₆
  cases r with
  | none => exact ⟨_, hk₆, .both hA hB (.inr rfl)⟩
  | some _ => exact ⟨_, hk₆, .both hA hB (.inl rfl)⟩

theorem connectChannels_conveys {s : Session} (hs : Sound s.vigil) (w : σ) (t : Trace) :
    s.Conveys t (Linking s) (connectChannels S.traced (s, w, t)) := by
  simp only [connectChannels, Trial.bind_apply, current_apply]
  rcases ha : s.activator with _ | a
  · rcases hu : s.tunnel with _ | u
    · exact ⟨[], .refl s.vigil w t, .untunnelled ha hu⟩
    · dsimp only
      rcases hd : u.direction with _ | _
      · rcases hl : s.vigil.listener with _ | l
        · simp only [connectAccepted, Trial.bind_apply, current_apply, hl, Option.isNone_none,
            if_true, fail_apply]
          exact ⟨[], .refl s.vigil w t, .unheard ha hu hd hl⟩
        · obtain ⟨es, hk, hp⟩ := connectAccepted_conveys S hs hl w t
          exact ⟨es, hk, .reverse ha hu hd hl hp⟩
      · obtain ⟨es, hk, hp⟩ := connectProbed_conveys S hs (.loopback u.localPort) .forward w t
        simp only [Trial.bind_apply]
        generalize connectProbed S.traced (.loopback u.localPort) .forward (s, w, t) = y at hk hp ⊢
        obtain ⟨h | ⟨⟩, s', w', t'⟩ := y
        · exact ⟨es, hk, .forward ha hu hd hp⟩
        · -- The tunnel is removed, which is no traffic.
          obtain ⟨r, w'', hr⟩ := Tunnel.disable_apply S s.serial u w' t'
          have hk' := hk.beside w'' [.bridge s.serial u.removal r] rfl
          simp only [outside_apply, update_apply, hr]
          exact ⟨_, hk', .forward ha hu hd (by simpa [traffic, Event.isTraffic] using hp)⟩
  · obtain ⟨es, hk, hp⟩ := connectProbed_conveys S hs ⟨a.hostName, s.portRange.first⟩ .direct w t
    exact ⟨es, hk, .direct ha hp⟩

/-- **All the traffic there is to a connect.** -/
theorem connect_conveys {s : Session} (hs : Sound s.vigil) (hp : s.phase = .started) (w : σ)
    (t : Trace) : s.Conveys t (Linking s) (connect S.traced (s, w, t)) := by
  obtain ⟨es, hk, hl⟩ := connectChannels_conveys S hs w t
  simp only [connect, expect, Trial.bind_apply, current_apply, hp, ne_eq, not_true, if_false,
    Trial.pure_apply]
  generalize connectChannels S.traced (s, w, t) = y at hk hl ⊢
  obtain ⟨h | ⟨⟩, s', w', t'⟩ := y
  · exact ⟨es, hk, hl⟩
  · simp only [update_apply, outside_apply, Surroundings.traced_info]
    have hk' := hk.beside (S.info "Connected to the remote agent" w').2 [] rfl
    rw [traffic_nil, List.append_nil, List.append_nil] at hk'
    exact ⟨es, hk', hl⟩

end Session

end DeviceLink
