import DeviceLink.Proofs.Session.Scene
/-!
# Sessions — a call is a run of steps

A call lets the watcher move as far as it can wherever it has to wait, and
time pass where nobody can move. This is one order of the steps that an owner,
a watcher and the surroundings can take: what connects and stops give, is what
a run of steps leads to (`connect_steps`, `stop_steps`). So what holds after
any run of steps holds after the calls.
-/

namespace DeviceLink

open Vigil

namespace Session

variable {σ : Type} {S : Surroundings σ} {g : Scene σ} {s : Session} {o : Owner} {x : σ × Trace}

/-! ## What happens beside an owner -/

theorem Steps.watch (h : Steps S g ⟨s, o, x⟩) {m : Vigil × σ × Trace}
    (hm : m ∈ s.vigil.moves S.traced x) : Steps S g ⟨{ s with vigil := m.1 }, o, m.2⟩ :=
  h.step (.watch hm)

theorem Steps.next (h : Steps S g ⟨s, o, x⟩) (limit : Option Nat) :
    Steps S g ⟨s, o, (S.traced.next? limit x).2⟩ :=
  h.step (.elapse _ (S.next? limit x.1).1.toList)

theorem Steps.sleep (h : Steps S g ⟨s, o, x⟩) (time : Nat) :
    Steps S g ⟨s, o, (S.traced.sleep time x).2⟩ :=
  h.step (.elapse _ [time])

/-- What is told changes nothing but what surrounds the session. -/
theorem Steps.tell {w : σ} {t : Trace} (h : Steps S g ⟨s, o, w, t⟩) (w' : σ) :
    Steps S g ⟨s, o, w', t⟩ := by
  have hstep := h.step (.elapse w' [])
  rwa [List.map_nil, List.append_nil] at hstep

/-! ## Calls on the listener -/

/-- A call on the listener, taken to its end beside the watcher. -/
theorem Steps.advance {e : Errand} {c : Listener.Call} (h : Steps S g ⟨s, .calling e c, x⟩)
    (hl : s.vigil.listener.isSome = true) {r : Option Listener.Call} {v' : Vigil}
    {x' : σ × Trace}
    (hr : await S.traced (Vigil.advance S.traced) c (s.vigil, x) = (r, v', x')) :
    ∀ c', r = some c' → Steps S g ⟨{ s with vigil := v' }, .calling e c', x'⟩ ∧
      v'.listener.isSome = true ∧ c'.isAccept = c.isAccept ∧ c'.isOver = true := by
  rintro c' rfl
  obtain ⟨⟨hsteps, hl', hkind⟩, hover⟩ := await_advance_ends
    (R := fun c' v y => Steps S g ⟨{ s with vigil := v }, .calling e c', y⟩ ∧
      v.listener.isSome = true ∧ c'.isAccept = c.isAccept)
    (fun {c v y m} h hm => by
      obtain ⟨_, -, hdoes⟩ := Vigil.moves_does hm
      exact ⟨h.1.watch hm, hdoes.isSome_listener.trans h.2.1, h.2.2⟩)
    (fun h => ⟨h.1.next none, h.2⟩)
    (fun {c v y l m} h hl hm =>
      ⟨h.1.step (.call hl hm), rfl, (Listener.Call.moves_does hm).isAccept_eq.trans h.2.2⟩)
    (⟨h, hl, rfl⟩) hr
  exact ⟨hsteps, hl', hkind, hover hl'⟩

/-- An accept is a run of steps. -/
theorem Steps.accept {e : Errand} (he : e.isAccept = true)
    (h : Steps S g ⟨s, .calling e .queued, x⟩) (hl : s.vigil.listener.isSome = true)
    {r : Except (Halt SessionError) Stream} {v' : Vigil} {x' : σ × Trace}
    (hr : Connection.accept S.traced (s.vigil, x) = (r, v', x')) :
    (∀ stream, r = .ok stream →
      Steps S g ⟨{ s with vigil := v' }, .calling e (.accepted (some stream)), x'⟩ ∧
        v'.listener.isSome = true) ∧
    ∀ cause, r = .error cause → cause ≠ .stuck →
      Steps S g ⟨{ s with vigil := v' }, .free (.error cause), x'⟩ := by
  simp only [Connection.accept, Vigil.accept, Trial.bind_apply, Trial.lift_apply,
    Act.bind_apply] at hr
  rcases hc : await S.traced (Vigil.advance S.traced) .queued (s.vigil, x) with ⟨_ | c', v₁, x₁⟩ <;>
    rw [hc] at hr
  · cases hr
    exact ⟨fun _ h => (by cases h), fun cause h hne => absurd (Except.error.inj h).symm hne⟩
  obtain ⟨hsteps, hl', hkind, hover⟩ := h.advance hl hc c' rfl
  have hdied : c' = .accepted none ∨ (∃ cause, c' = .refused cause) →
      Steps S g ⟨{ s with vigil := v₁ }, .free (.error (.failed .remoteDied)), x₁⟩ := fun hcause =>
    hsteps.step (.died he hcause)
  cases c' with
  | accepted found =>
      rcases found with _ | stream
      · cases hr
        exact ⟨fun _ h => (by cases h), fun cause h _ => Except.error.inj h ▸ hdied (.inl rfl)⟩
      · cases hr
        exact ⟨fun _ h => Except.ok.inj h ▸ ⟨hsteps, hl'⟩, fun _ h => (by cases h)⟩
  | refused cause =>
      cases hr
      exact ⟨fun _ h => (by cases h), fun _ h _ => Except.error.inj h ▸ hdied (.inr ⟨cause, rfl⟩)⟩
  | queued | accepting => cases hover
  | closing | shutting | waiting | dropping | closed _ => cases hkind

/-- A close is a run of steps. -/
theorem Steps.close {e : Errand} (h : Steps S g ⟨s, .calling e .closing, x⟩)
    (hl : s.vigil.listener.isSome = true) {r : Option Bool} {v' : Vigil} {x' : σ × Trace}
    (hr : closeListener S.traced (s.vigil, x) = (r, v', x')) (hsome : r.isSome = true) :
    ∃ first, Steps S g ⟨{ s with vigil := v' }, .calling e (.closed first), x'⟩ := by
  simp only [closeListener, Act.bind_apply] at hr
  rcases hc : await S.traced (Vigil.advance S.traced) .closing (s.vigil, x) with
    ⟨_ | c', v₁, x₁⟩ <;> rw [hc] at hr
  · cases hr
    cases hsome
  obtain ⟨hsteps, -, hkind, hover⟩ := h.advance hl hc c' rfl
  cases c' with
  | closed first => cases hr; exact ⟨first, hsteps⟩
  | queued | accepting | accepted _ | refused _ => cases hkind
  | closing | shutting | waiting | dropping => cases hover

/-! ## Connects -/

/-- The accepts of a connect are a run of steps, up to the close of the
listener. -/
theorem connectAccepted_steps {s' : Session} {x' : σ × Trace}
    (last : Except (Halt SessionError) Unit) {r : Except (Halt SessionError) Unit}
    (hp : s.phase = .started) (hr : connectAccepted S.traced (s, x) = (r, s', x')) :
    (r = .ok () →
      ∃ first, Steps S ⟨s, .free last, x⟩ ⟨s', .calling .connected (.closed first), x'⟩) ∧
    ∀ cause, r = .error cause → cause ≠ .stuck →
      Steps S ⟨s, .free last, x⟩ ⟨s', .free (.error cause), x'⟩ := by
  simp only [connectAccepted, Trial.bind_apply, current_apply] at hr
  rcases hl : s.vigil.listener with _ | l
  · simp only [hl, Option.isNone_none, if_true] at hr
    cases hr
    exact ⟨fun h => (by cases h), fun _ h _ => Except.error.inj h ▸ .single ⟨_, .unheard hp hl⟩⟩
  have hsome : s.vigil.listener.isSome = true := by rw [hl]; rfl
  simp only [hl, Option.isNone_some, Bool.false_eq_true, if_false, Trial.bind_apply,
    attempt_apply] at hr
  have h₀ : Steps S ⟨s, .free last, x⟩ ⟨s, .calling .video .queued, x⟩ :=
    .single ⟨_, .connect hp hsome⟩
  rcases hv : Connection.accept S.traced (s.vigil, x) with ⟨cause | video, v₁, w₁, t₁⟩ <;>
    rw [hv] at hr
  · cases hr
    refine ⟨fun h => (by cases h), fun _ h hne => ?_⟩
    cases h
    exact (h₀.accept rfl hsome hv).2 cause rfl hne
  obtain ⟨h₁, hl₁⟩ := (h₀.accept rfl hsome hv).1 video rfl
  obtain ⟨w₂, hset⟩ := setVideo_apply S video { s with vigil := v₁ } w₁ t₁
  have h₂ := h₁.step (.video hset)
  simp only [hset, attempt_apply] at hr
  rcases hc : Connection.accept S.traced (v₁, w₂, t₁ ++ closes s.video) with
    ⟨cause | control, v₃, w₃, t₃⟩ <;> rw [hc] at hr
  · cases hr
    refine ⟨fun h => (by cases h), fun _ h hne => ?_⟩
    cases h
    exact (h₂.accept rfl hl₁ hc).2 cause rfl hne
  obtain ⟨h₃, hl₃⟩ := (h₂.accept rfl hl₁ hc).1 control rfl
  obtain ⟨w₄, hset⟩ :=
    setControl_apply S control { s with vigil := v₃, video := some video } w₃ t₃
  have h₄ := h₃.step (.control hset)
  simp only [hset, Trial.discard_apply, waiting_apply] at hr
  rcases hclose : closeListener S.traced (v₃, w₄, t₃ ++ closes s.control) with
    ⟨_ | first, v₅, x₅⟩ <;> rw [hclose] at hr
  · cases hr
    exact ⟨fun h => (by cases h), fun _ h hne => absurd (Except.error.inj h).symm hne⟩
  · cases hr
    exact ⟨fun _ => h₄.close hl₃ hclose rfl, fun _ h => (by cases h)⟩

/-- **A connect over a reverse tunnel is a run of steps.** -/
theorem connect_steps {s' : Session} {x' : σ × Trace} {last r : Except (Halt SessionError) Unit}
    (ha : s.activator = none) (hd : s.direction = some .reverse)
    (hr : connect S.traced (s, x) = (r, s', x')) (hstuck : r ≠ .error .stuck) :
    Steps S ⟨s, .free last, x⟩ ⟨s', .free r, x'⟩ := by
  by_cases hp : s.phase = .started
  · obtain ⟨u, hu, hu'⟩ := Option.map_eq_some_iff.1 hd
    simp only [connect, connectChannels, expect, Trial.bind_apply, current_apply, hp, ne_eq,
      not_true, if_false, Trial.pure_apply, ha, hu, hu'] at hr
    rcases hc : connectAccepted S.traced (s, x) with ⟨cause | ⟨⟩, s₁, w₁, t₁⟩ <;> rw [hc] at hr
    · cases hr
      exact (connectAccepted_steps last hp hc).2 cause rfl fun h => hstuck (h ▸ rfl)
    · simp only [update_apply, outside_apply, Surroundings.traced_info] at hr
      cases hr
      obtain ⟨first, h₁⟩ := (connectAccepted_steps last hp hc).1 rfl
      exact (h₁.step .connected).tell _
  · rw [connect_refused S.traced hp] at hr
    cases hr
    exact .single ⟨_, .refused hp⟩

/-! ## Stops -/

/-- A wait for the watcher is a run of steps. -/
theorem Steps.join (h : Steps S g ⟨s, .joining, x⟩) {r : Option Unit} {v' : Vigil} {x' : σ × Trace}
    (hr : Vigil.join S.traced (s.vigil, x) = (r, v', x')) (hsome : r.isSome = true) :
    Steps S g ⟨{ s with vigil := v' }, .ending, x'⟩ := by
  obtain ⟨u, hu, rfl, hover⟩ := join_ends
    (P := fun v y => Steps S g ⟨{ s with vigil := v }, .joining, y⟩)
    (fun h hm => h.watch hm) (fun h => h.next none) h hr
  exact hu.step (.joined (hover hsome))

/-- The wait for the watcher is a run of steps, with a kill if the termination
was not told. -/
theorem endWatch_steps {s' : Session} {x' : σ × Trace} (kill : Bool)
    {r : Except (Halt SessionError) Unit} (h : Steps S g ⟨s, .awaiting, x⟩)
    (hk : s.vigil.terminated = !kill) (hr : endWatch S.traced kill (s, x) = (r, s', x'))
    (hstuck : r ≠ .error .stuck) : Steps S g ⟨s', .ending, x'⟩ := by
  -- The wait that is left, of a session that was asked for a kill or not.
  have hjoin : ∀ {s : Session}, Steps S g ⟨s, .joining, x⟩ →
      waiting (Vigil.join S.traced) (s, x) = (r, s', x') → Steps S g ⟨s', .ending, x'⟩ := by
    intro s h hr
    rw [waiting_apply] at hr
    rcases hj : Vigil.join S.traced (s.vigil, x) with ⟨_ | u, v, x₁⟩ <;> rw [hj] at hr
    · cases hr
      exact absurd rfl hstuck
    · cases hr
      exact h.join hj rfl
  cases kill with
  | false =>
      simp only [endWatch, Bool.false_eq_true, if_false] at hr
      exact hjoin (h.step (.told hk)) hr
  | true =>
      simp only [endWatch, if_true, Trial.bind_apply, update_apply] at hr
      exact hjoin (h.step (.expired hk)) hr

/-- The end of a stop is a run of steps. -/
theorem awaitAgent_steps {s' : Session} {x' : σ × Trace} {r : Except (Halt SessionError) Unit}
    (h : Steps S g ⟨s, if s.vigil.watcher.isSome then .awaiting else .ending, x⟩)
    (hr : awaitAgent S.traced (s, x) = (r, s', x')) (hstuck : r ≠ .error .stuck) :
    Steps S g ⟨s', .ending, x'⟩ := by
  simp only [awaitAgent, Trial.bind_apply, current_apply] at hr
  rcases hw : s.vigil.watcher with _ | y
  · simp only [hw, Option.isSome_none, Bool.false_eq_true, if_false] at hr h
    cases hr
    exact h
  simp only [hw, Option.isSome_some, if_true, Trial.bind_apply, waiting_apply, Act.map_apply,
    Option.elim_some] at hr h
  rcases ha : awaitTermination S.traced watchdogDelay (s.vigil, x) with ⟨ended, v, w₁, t₁⟩
  obtain ⟨h₁, hterm⟩ := awaitTermination_ends
    (P := fun v y => Steps S g ⟨{ s with vigil := v }, .awaiting, y⟩)
    (fun h hm => h.watch hm) (fun limit h => h.next limit) (fun time h => h.sleep time) h ha
  rw [ha] at hr
  cases ended with
  | true => exact endWatch_steps false h₁ hterm hr hstuck
  | false =>
      simp only [Bool.not_false, if_true, Trial.bind_apply, outside_apply,
        Surroundings.traced_warn] at hr
      exact endWatch_steps true (h₁.tell _) hterm hr hstuck

theorem stopListening_steps {s' : Session} {x' : σ × Trace} {r : Except (Halt SessionError) Unit}
    (h : Steps S g
      ⟨s, if s.vigil.listener.isSome then .calling .stopping .closing else .releasing, x⟩)
    (hr : stopListening S.traced (s, x) = (r, s', x')) (hstuck : r ≠ .error .stuck) :
    Steps S g ⟨s', .releasing, x'⟩ := by
  simp only [stopListening, Trial.bind_apply, current_apply] at hr
  by_cases hl : s.vigil.listener.isSome = true
  · rw [if_pos hl] at h hr
    rw [Trial.discard_apply, waiting_apply] at hr
    rcases hc : closeListener S.traced (s.vigil, x) with ⟨_ | first, v, x₁⟩ <;> rw [hc] at hr
    · cases hr
      exact absurd rfl hstuck
    · cases hr
      obtain ⟨_, h₁⟩ := h.close hl hc rfl
      exact h₁.step .closed
  · rw [if_neg hl] at h hr
    cases hr
    exact h

/-- Taking a running session down is a run of steps. -/
theorem tearDown_steps {s' : Session} {x' : σ × Trace} (last : Except (Halt SessionError) Unit)
    {r : Except (Halt SessionError) Unit} (hp : s.phase = .started ∨ s.phase = .connected)
    (hr : tearDown S.traced (s, x) = (r, s', x')) (hstuck : r ≠ .error .stuck) :
    Steps S ⟨s, .free last, x⟩ ⟨s', .free r, x'⟩ := by
  obtain ⟨w, t⟩ := x
  simp only [tearDown, Trial.bind_apply, update_apply] at hr
  have h₀ : Steps S ⟨s, .free last, w, t⟩ _ := .single ⟨_, .stop hp⟩
  rcases hl : stopListening S.traced ({ s with phase := .stopping }, w, t) with
    ⟨cause | ⟨⟩, s₁, w₁, t₁⟩ <;> rw [hl] at hr
  · -- Only a stuck close fails, and the stop with it.
    obtain ⟨_, _, _, _, hclose, -, hcause⟩ :=
      stopListening_apply S { s with phase := .stopping } w t
    rw [hl] at hclose
    cases hclose
    cases hr
    rcases hcause with hcause | hcause
    · cases hcause
    · exact absurd hcause hstuck
  have h₁ := stopListening_steps h₀ hl fun h => (by cases h)
  obtain ⟨w₂, hclosed⟩ := closeChannels_apply S s₁ w₁ t₁
  have h₂ := h₁.step (.release hclosed)
  simp only [hclosed] at hr
  generalize t₁ ++ (closes s₁.video ++ closes s₁.control) = t₂ at h₂ hr
  obtain ⟨un, w₃, hundone, -⟩ :=
    deactivate_undoes S { s₁ with video := none, control := none } w₂ t₂
  have h₃ := h₂.step (.deactivate hundone)
  simp only [hundone] at hr
  generalize hs₃ : ({ s₁ with
    video := none, control := none,
    tunnelEnabled := s₁.tunnelEnabled && s₁.activator.isSome } : Session) = s₃ at h₃ hr
  have hwatcher : s₁.vigil.watcher = s₃.vigil.watcher := by rw [← hs₃]
  dsimp only at h₃
  rw [hwatcher] at h₃
  rcases ha : awaitAgent S.traced (s₃, w₃, t₂ ++ un) with ⟨cause | ⟨⟩, s₄, w₄, t₄⟩ <;>
    rw [ha] at hr
  · -- The same of the wait for the watcher.
    obtain ⟨_, _, _, _, hwait, -, -, hcause⟩ := awaitAgent_apply S s₃ w₃ (t₂ ++ un)
    rw [ha] at hwait
    cases hwait
    cases hr
    rcases hcause with hcause | hcause
    · cases hcause
    · exact absurd hcause hstuck
  have h₄ := awaitAgent_steps h₃ ha fun h => (by cases h)
  simp only [outside_apply, update_apply, Surroundings.traced_info] at hr
  cases hr
  exact (h₄.step .stopped).tell _

/-- **A stop is a run of steps.** -/
theorem stop_steps {s' : Session} {x' : σ × Trace} {last r : Except (Halt SessionError) Unit}
    (hr : stop S.traced (s, x) = (r, s', x')) (hstuck : r ≠ .error .stuck) :
    Steps S ⟨s, .free last, x⟩ ⟨s', .free r, x'⟩ := by
  by_cases hp : s.phase = .started ∨ s.phase = .connected
  · rw [stop_eq_tearDown S.traced hp] at hr
    exact tearDown_steps last hp hr hstuck
  · obtain ⟨w, t⟩ := x
    obtain ⟨w', hw⟩ := stop_other S (fun h => hp (.inl h)) (fun h => hp (.inr h)) w t
    rw [hw] at hr
    cases hr
    have h₀ : Steps S ⟨s, .free last, w, t⟩ ⟨s, .free (.ok ()), w, t⟩ :=
      .single ⟨_, .unstopped (fun h => hp (.inl h)) fun h => hp (.inr h)⟩
    exact h₀.tell w'

end Session

end DeviceLink
