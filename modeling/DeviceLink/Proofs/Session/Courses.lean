import DeviceLink.Proofs.Session.Course
import DeviceLink.Proofs.Session.Scheduling
/-!
# Sessions — every call is a course of steps

A call lets the watcher move as far as it can wherever it waits, which is one
order of the steps that `Progress` allows. What a session does with a reverse
tunnel is known to be a run of steps (`connect_steps`, `stop_steps`); the search
for an agent that listens is followed here, attempt by attempt, and giving the
session up. So whatever holds after any course holds after any number of calls.
-/

namespace DeviceLink

open Vigil

namespace Session

variable {σ : Type} {S : Surroundings σ} {g : Stage σ} {s : Session} {p : Place} {x : σ × Trace}
variable {handed : List Stream}

/-- The same scene with what was handed over before. -/
def Scene.stage (g : Scene σ) (handed : List Stream) : Stage σ :=
  ⟨g.session, .within g.owner, g.world, handed⟩

/-- **Steps with a reverse tunnel** are steps with any session. -/
theorem Steps.course {g g' : Scene σ} (h : Steps S g g') (handed : List Stream) :
    Course S (g.stage handed) (g'.stage handed) := by
  induction h with
  | refl => exact .refl
  | tail _ hs ih =>
      obtain ⟨who, hs⟩ := hs
      cases who with
      | owner => exact ih.step (.own hs)
      | watcher => cases hs with | watch hm => exact ih.step (.watch hm)
      | nature => cases hs with | elapse w' times => exact ih.step (.elapse w' times)

/-! ## What happens beside an owner -/

namespace Course

theorem watch (h : Course S g ⟨s, p, x, handed⟩) {m : Vigil × σ × Trace}
    (hm : m ∈ s.vigil.moves S.traced x) : Course S g ⟨{ s with vigil := m.1 }, p, m.2, handed⟩ :=
  h.step (.watch hm)

theorem next (h : Course S g ⟨s, p, x, handed⟩) (limit : Option Nat) :
    Course S g ⟨s, p, (S.traced.next? limit x).2, handed⟩ :=
  h.step (.elapse _ (S.next? limit x.1).1.toList)

theorem sleep (h : Course S g ⟨s, p, x, handed⟩) (time : Nat) :
    Course S g ⟨s, p, (S.traced.sleep time x).2, handed⟩ :=
  h.step (.elapse _ [time])

/-- What is told changes nothing but what surrounds the session. -/
theorem tell {w : σ} {t : Trace} (h : Course S g ⟨s, p, (w, t), handed⟩) (w' : σ) :
    Course S g ⟨s, p, (w', t), handed⟩ := by
  have hstep := h.step (.elapse w' [])
  rwa [List.map_nil, List.append_nil] at hstep

/-! ## The search for an agent that listens -/

variable {e : Endpoint} {q : RetryPolicy} {left : Nat}

/-- A wait for a byte leads to where it is read. -/
theorem reading {stream : Stream} (h : Course S g ⟨s, .reading e q left stream, x, handed⟩)
    {found : Except IoError (Option UInt8)} {v' : Vigil} {x' : σ × Trace}
    (hr : Connection.readByte S.traced stream (s.vigil, x) = (some found, v', x')) :
    ∃ y, Course S g ⟨{ s with vigil := v' }, .reading e q left stream, y, handed⟩ ∧
      S.traced.readByte? stream y = (some found, x') := by
  -- An attempt leaves the vigil alone, and comes to an end with what is read.
  have hask : ∀ {u : Unit} {v : Vigil} {y y' : σ × Trace}
      {b : Option (Except IoError (Option UInt8))}, S.traced.readByte? stream y = (b, y') →
      Connection.askByte S.traced stream u (v, y) = (b.elim (.inl ()) .inr, v, y') := by
    intro u v y y' b hb
    simp only [Connection.askByte, Act.bind_apply, Vigil.outside_apply, hb]
    rcases b with _ | found <;> rfl
  have hend := waitFor_ends
    (R := fun _ v y => Course S g ⟨{ s with vigil := v }, .reading e q left stream, y, handed⟩)
    (Q := fun found v y' => ∃ y,
      Course S g ⟨{ s with vigil := v }, .reading e q left stream, y, handed⟩ ∧
        S.traced.readByte? stream y = (some found, y'))
    (fun h hm => h.watch hm) (fun h => h.next none)
    (fun {_ v y _ v₁ y₁} h ha => by
      rcases hb : S.traced.readByte? stream y with ⟨_ | found, y₂⟩ <;> rw [hask hb] at ha <;>
        cases ha
      exact h.step (.seek (.silent hb)))
    (fun {_ v y _ v₁ y₁} h ha => by
      rcases hb : S.traced.readByte? stream y with ⟨_ | found, y₂⟩ <;> rw [hask hb] at ha <;>
        cases ha
      exact ⟨y, h, hb⟩)
    _ h hr
  exact hend

/-- One probe: an agent is found, or another attempt is to be made. -/
theorem probeOnce (h : Course S g ⟨s, .probing e q (left + 1), x, handed⟩)
    {r : Except (Halt SessionError) (Option Stream)} {v' : Vigil} {x' : σ × Trace}
    (hr : Connection.probeOnce S.traced e (s.vigil, x) = (r, v', x')) :
    (r = .ok none → Course S g ⟨{ s with vigil := v' }, .pausing e q left, x', handed⟩) ∧
    (∀ stream, r = .ok (some stream) →
      Course S g ⟨{ s with vigil := v' }, .found e stream, x', handed⟩) ∧
    ∀ cause, r = .error cause → cause = .stuck := by
  simp only [Connection.probeOnce, Connection.act, Trial.bind_apply, Trial.lift_apply,
    Vigil.outside_apply] at hr
  rcases hc : S.traced.connect e x with ⟨cause | stream, x₁⟩ <;> rw [hc] at hr
  · cases hr
    exact ⟨fun _ => h.step (.seek (.refused hc)), fun _ h => (by cases h), fun _ h => (by cases h)⟩
  have h₁ := h.step (.seek (.opened hc))
  simp only [Trial.bind_apply, Trial.lift_apply] at hr
  rcases hb : Connection.readByte S.traced stream (s.vigil, x₁) with ⟨_ | found, v₂, x₂⟩ <;>
    rw [hb] at hr
  · cases hr
    exact ⟨fun h => (by cases h), fun _ h => (by cases h), fun _ h => (Except.error.inj h).symm⟩
  obtain ⟨y, h₂, hread⟩ := h₁.reading hb
  rcases found with cause | _ | b
  · cases hr
    exact ⟨fun _ => h₂.step (.seek (.dead hread fun _ h => (by cases h))), fun _ h => (by cases h),
      fun _ h => (by cases h)⟩
  · cases hr
    exact ⟨fun _ => h₂.step (.seek (.dead hread fun _ h => (by cases h))), fun _ h => (by cases h),
      fun _ h => (by cases h)⟩
  · cases hr
    exact ⟨fun h => (by cases h), fun _ h => (by cases h; exact h₂.step (.seek (.live hread))),
      fun _ h => (by cases h)⟩

/-- A pause is a wait between two attempts. -/
theorem pause (h : Course S g ⟨s, .pausing e q left, x, handed⟩) (time : Nat) {v' : Vigil}
    {x' : σ × Trace} (hr : Vigil.pause S.traced time (s.vigil, x) = ((), v', x')) :
    Course S g ⟨{ s with vigil := v' }, .pausing e q left, x', handed⟩ := by
  rcases hp : passUntil S.traced (fun _ => false) (S.traced.horizon x) time (s.vigil, x) with
    ⟨ended, v₁, x₁⟩
  have hend := (passUntil_ends
    (P := fun v y => Course S g ⟨{ s with vigil := v }, .pausing e q left, y, handed⟩)
    (fun h hm => h.watch hm) (fun limit h => h.next limit) (fun time h => h.sleep time)
    (S.traced.horizon x) time h hp).1
  have hpause : Vigil.pause S.traced time (s.vigil, x) = ((), (passUntil S.traced (fun _ => false)
    (S.traced.horizon x) time (s.vigil, x)).2) := rfl
  rw [hpause, hp] at hr
  cases hr
  exact hend

/-- A number of attempts: an agent is found, or none is left. -/
theorem attempts : ∀ (left : Nat) {s : Session} {x : σ × Trace}
    (_ : Course S g ⟨s, .probing e q left, x, handed⟩) {r : Except (Halt SessionError) Stream}
    {v' : Vigil} {x' : σ × Trace},
    Connection.attempts S.traced e q left (s.vigil, x) = (r, v', x') →
    (∀ stream, r = .ok stream →
      Course S g ⟨{ s with vigil := v' }, .found e stream, x', handed⟩) ∧
    ∀ cause, r = .error cause → cause ≠ .stuck →
      Course S g ⟨{ s with vigil := v' }, .free (.error cause), x', handed⟩ := by
  intro left
  induction left with
  | zero =>
      intro s x h r v' x' hr
      cases hr
      exact ⟨fun _ h => (by cases h), fun _ hc _ => Except.error.inj hc ▸ h.step (.seek .exhausted)⟩
  | succ left ih =>
      intro s x h r v' x' hr
      rw [Connection.attempts, Trial.bind_apply] at hr
      rcases hp : Connection.probeOnce S.traced e (s.vigil, x) with ⟨cause | _ | stream, v₁, x₁⟩ <;>
        rw [hp] at hr
      · cases hr
        refine ⟨fun _ h => (by cases h), fun _ hc hne => ?_⟩
        cases hc
        exact absurd ((h.probeOnce hp).2.2 _ rfl) hne
      · have h₁ := (h.probeOnce hp).1 rfl
        by_cases hl : (left != 0) = true
        · simp only [if_pos hl, Trial.bind_apply, Trial.lift_apply] at hr
          rcases hw : Vigil.pause S.traced q.delay (v₁, x₁) with ⟨⟨⟩, v₂, x₂⟩
          rw [hw] at hr
          exact ih ((h₁.pause q.delay hw).step (.seek .again)) hr
        · simp only [if_neg hl] at hr
          exact ih (h₁.step (.seek .again)) hr
      · cases hr
        exact ⟨fun _ h' => Except.ok.inj h' ▸ (h.probeOnce hp).2.1 _ rfl, fun _ h => (by cases h)⟩

end Course

/-! ## Connects -/

/-- The channels to an agent that listens, up to where both are in their
places. -/
theorem connectProbed_course {e : Endpoint} {q : RetryPolicy}
    (h : Course S g ⟨s, .probing e q q.tries.toNat, x, handed⟩)
    {r : Except (Halt SessionError) Unit} {s' : Session} {x' : σ × Trace}
    (hr : connectProbed S.traced e q (s, x) = (r, s', x')) :
    (r = .ok () → Course S g ⟨s', .linked, x', handed⟩ ∧
      s'.activator = s.activator ∧ s'.tunnel = s.tunnel ∧ s'.serial = s.serial) ∧
    ∀ cause, r = .error cause → cause ≠ .stuck →
      Course S g ⟨s', .free (.error cause), x', handed⟩ := by
  simp only [connectProbed, Trial.bind_apply, attempt_apply] at hr
  rcases hp : Connection.probe S.traced e q (s.vigil, x) with ⟨cause | video, v₁, w₁, t₁⟩ <;>
    rw [hp] at hr
  · cases hr
    refine ⟨fun h => (by cases h), fun _ hc hne => ?_⟩
    cases hc
    exact (h.attempts _ hp).2 cause rfl hne
  have h₁ := (h.attempts _ hp).1 video rfl
  obtain ⟨w₂, hset⟩ := setVideo_apply S video { s with vigil := v₁ } w₁ t₁
  have h₂ := h₁.step (.video hset)
  simp only [hset, attempt_apply, Connection.connect, Connection.act, Trial.bind_apply,
    Trial.lift_apply, Vigil.outside_apply] at hr
  rcases hc : S.traced.connect e (w₂, t₁ ++ closes s.video) with ⟨cause | control, w₃, t₃⟩ <;>
    rw [hc] at hr
  · cases hr
    refine ⟨fun h => (by cases h), fun _ hcause _ => ?_⟩
    cases hcause
    exact h₂.step (.seek (.undialed hc))
  have h₃ := h₂.step (.seek (.dialed hc))
  obtain ⟨w₄, hset⟩ := setControl_apply S control { s with vigil := v₁, video := some video } w₃ t₃
  simp only [Trial.pure_apply, hset] at hr
  cases hr
  exact ⟨fun _ => ⟨h₃.step (.control hset), rfl, rfl, rfl⟩, fun _ h => (by cases h)⟩

/-- A connect to an agent at an endpoint. -/
theorem connectDirect_course {last r : Except (Halt SessionError) Unit} {s' : Session}
    {x' : σ × Trace} {a : Activator} (ha : s.activator = some a) (hp : s.phase = .started)
    (hr : connect S.traced (s, x) = (r, s', x')) (hstuck : r ≠ .error .stuck) :
    Course S ⟨s, .free last, x, handed⟩ ⟨s', .free r, x', handed⟩ := by
  have he : s.endpoint? = some ⟨a.hostName, s.portRange.first⟩ := by rw [endpoint?, ha]
  have h₀ : Course S ⟨s, .free last, x, handed⟩
      ⟨s, .probing _ s.policy s.policy.tries.toNat, x, handed⟩ := .single ⟨_, .connect hp he⟩
  have hpolicy : s.policy = .direct := by rw [policy, ha]; rfl
  rw [hpolicy] at h₀
  simp only [connect, connectChannels, expect, Trial.bind_apply, current_apply, hp, ne_eq,
    not_true, if_false, Trial.pure_apply, ha] at hr
  rcases hc : connectProbed S.traced ⟨a.hostName, s.portRange.first⟩ .direct (s, x) with
    ⟨cause | ⟨⟩, s₁, w₁, t₁⟩ <;> rw [hc] at hr
  · cases hr
    exact (connectProbed_course h₀ hc).2 cause rfl fun h => hstuck (by rw [h])
  · obtain ⟨h₁, ha', -, -⟩ := (connectProbed_course h₀ hc).1 rfl
    simp only [outside_apply, update_apply, Surroundings.traced_info] at hr
    cases hr
    exact (h₁.step (.connected (by rw [ha', ha]; rfl))).tell _

/-- A connect through a forward tunnel, which is removed then. -/
theorem connectForward_course {last r : Except (Halt SessionError) Unit} {s' : Session}
    {x' : σ × Trace} {u : Tunnel} (ha : s.activator = none) (hu : s.tunnel = some u)
    (hforward : u.direction = .forward) (hp : s.phase = .started)
    (hr : connect S.traced (s, x) = (r, s', x')) (hstuck : r ≠ .error .stuck) :
    Course S ⟨s, .free last, x, handed⟩ ⟨s', .free r, x', handed⟩ := by
  have he : s.endpoint? = some (.loopback u.localPort) := by
    obtain ⟨d, port⟩ := u
    obtain rfl : d = .forward := hforward
    rw [endpoint?, ha, hu]
  have h₀ : Course S ⟨s, .free last, x, handed⟩
      ⟨s, .probing _ s.policy s.policy.tries.toNat, x, handed⟩ := .single ⟨_, .connect hp he⟩
  have hpolicy : s.policy = .forward := by rw [policy, ha]; rfl
  rw [hpolicy] at h₀
  simp only [connect, connectChannels, expect, Trial.bind_apply, current_apply, hp, ne_eq,
    not_true, if_false, Trial.pure_apply, ha, hu, hforward] at hr
  rcases hc : connectProbed S.traced (.loopback u.localPort) .forward (s, x) with
    ⟨cause | ⟨⟩, s₁, w₁, t₁⟩ <;> rw [hc] at hr
  · cases hr
    exact (connectProbed_course h₀ hc).2 cause rfl fun h => hstuck (by rw [h])
  · obtain ⟨h₁, ha', hu', hs'⟩ := (connectProbed_course h₀ hc).1 rfl
    obtain ⟨_, w₂, hdisable⟩ := Tunnel.disable_apply S s₁.serial u w₁ t₁
    rw [← hs'] at hr
    simp only [outside_apply, update_apply, hdisable, Surroundings.traced_info] at hr
    cases hr
    exact (h₁.step (.unmapped (ha'.trans ha) (hu'.trans hu) hdisable)).tell _

/-- **A connect is a course**, whatever way there is to the agent. -/
theorem connect_course {last r : Except (Halt SessionError) Unit} {s' : Session} {x' : σ × Trace}
    (hr : connect S.traced (s, x) = (r, s', x')) (hstuck : r ≠ .error .stuck) :
    Course S ⟨s, .free last, x, handed⟩ ⟨s', .free r, x', handed⟩ := by
  by_cases hp : s.phase = .started
  swap
  · rw [connect_refused S.traced hp] at hr
    cases hr
    exact .single ⟨_, .own (.refused hp)⟩
  rcases ha : s.activator with _ | a
  swap
  · exact connectDirect_course ha hp hr hstuck
  rcases hu : s.tunnel with _ | u
  · simp only [connect, connectChannels, expect, Trial.bind_apply, current_apply, hp, ne_eq,
      not_true, if_false, Trial.pure_apply, ha, hu, fail_apply] at hr
    cases hr
    rw [← hp]
    exact .single ⟨_, .pathless hp ha hu⟩
  rcases hdir : u.direction with _ | _
  · have hreverse : s.direction = some .reverse := by
      rw [direction, hu, Option.map_some, hdir]
    have hsteps : Steps S ⟨s, .free last, x⟩ ⟨s', .free r, x'⟩ :=
      connect_steps ha hreverse hr hstuck
    exact hsteps.course handed
  · exact connectForward_course ha hu hdir hp hr hstuck

/-! ## Giving a session up -/

/-- A wait for the watcher of a session that is given up. -/
theorem endWatch_course (h : Course S g ⟨{ s with vigil := s.vigil.askKill }, .leaving, x, handed⟩)
    {r : Except (Halt SessionError) Unit} {s' : Session} {x' : σ × Trace}
    (hr : endWatch S.traced true (s, x) = (r, s', x')) (hstuck : r ≠ .error .stuck) :
    r = .ok () ∧ Course S g ⟨s', .parting, x', handed⟩ := by
  simp only [endWatch, if_true, Trial.bind_apply, update_apply, waiting_apply] at hr
  rcases hj : Vigil.join S.traced (s.vigil.askKill, x) with ⟨ended, v, x₁⟩
  rw [hj] at hr
  obtain ⟨u, hu, rfl, hover⟩ := join_ends
    (P := fun v y => Course S g ⟨{ s with vigil := v }, .leaving, y, handed⟩)
    (fun h hm => h.watch hm) (fun h => h.next none) h hj
  rcases ended with _ | ⟨⟩
  · cases hr
    exact absurd rfl hstuck
  · cases hr
    exact ⟨rfl, hu.step (.left (hover rfl))⟩

/-- The end of giving a session up, once there is nobody to wait for. -/
theorem part_course (h : Course S g ⟨s, .parting, x, handed⟩)
    {r : Except (Halt SessionError) Unit} {s' : Session} {x' : σ × Trace}
    (hr : (do closeChannels S.traced
              update fun s => { s with phase := .destroyed } : Call (σ × Trace) Unit) (s, x) =
      (r, s', x')) :
    Course S g ⟨s', .free r, x', handed⟩ ∧ s'.phase = .destroyed := by
  obtain ⟨w, t⟩ := x
  obtain ⟨w₁, hclosed⟩ := closeChannels_apply S s w t
  simp only [Trial.bind_apply, hclosed, update_apply] at hr
  cases hr
  exact ⟨h.step (.part hclosed), rfl⟩

/-- **Giving a session up is a course.** -/
theorem destroy_course {last r : Except (Halt SessionError) Unit} {s' : Session} {x' : σ × Trace}
    (hr : destroy S.traced (s, x) = (r, s', x')) (hstuck : r ≠ .error .stuck) :
    Course S ⟨s, .free last, x, handed⟩ ⟨s', .free r, x', handed⟩ ∧ s'.phase = .destroyed := by
  -- What is left to do after what is told of the phase.
  have hrest : ∀ {y : σ × Trace},
      Course S ⟨s, .free last, x, handed⟩ ⟨s, .free last, y, handed⟩ →
      (do
        if s.vigil.watcher.isSome then endWatch S.traced true
        closeChannels S.traced
        update fun s => { s with phase := .destroyed } : Call (σ × Trace) Unit) (s, y) =
        (r, s', x') →
      Course S ⟨s, .free last, x, handed⟩ ⟨s', .free r, x', handed⟩ ∧ s'.phase = .destroyed := by
    intro y h hr
    have hleave := h.step .leave
    dsimp only at hr
    by_cases hx : s.vigil.watcher.isSome = true
    · rw [if_pos hx] at hr hleave
      rw [Trial.bind_apply] at hr
      rcases he : endWatch S.traced true (s, y) with ⟨cause | ⟨⟩, s₁, x₁⟩ <;> rw [he] at hr
      · cases hr
        obtain ⟨hok, -⟩ := endWatch_course hleave he fun h => hstuck (by cases h; rfl)
        cases hok
      · exact part_course (endWatch_course hleave he fun h => (nomatch h)).2 hr
    · rw [if_neg hx] at hr hleave
      have hsame : s.vigil.askKill = s.vigil := by
        rw [Option.not_isSome_iff_eq_none] at hx
        rw [askKill, hx, Option.map_none, ← hx]
      rw [hsame] at hleave
      exact part_course hleave hr
  obtain ⟨w, t⟩ := x
  simp only [destroy, Trial.bind_apply, current_apply] at hr
  split at hr
  · rw [Trial.bind_apply, outside_apply, Surroundings.traced_warn] at hr
    exact hrest (Course.tell .refl _) hr
  · exact hrest .refl hr

/-! ## Calls -/

/-- What a reply hands over. -/
def Reply.handedOver : Reply → List Stream
  | .ok r => Session.handedOver r
  | .error _ => []

/-- **Every call that comes to its end is a course.** -/
theorem deed_course (d : Deed) {last : Except (Halt SessionError) Unit} {r : Reply} {s' : Session}
    {x' : σ × Trace} (hr : d.call S.traced (s, x) = (r, s', x')) (hstuck : r.isStuck = false) :
    ∃ last', Course S ⟨s, .free last, x, handed⟩
      ⟨s', .free last', x', handed ++ r.handedOver⟩ := by
  -- A call that gives nothing hands nothing over.
  have hnone : ∀ {q : Except (Halt SessionError) Unit} {h : List Stream},
      h ++ Reply.handedOver (q.map fun _ => none) = h := by
    rintro (_ | _) h <;> exact List.append_nil h
  have hmapped : ∀ {q : Except (Halt SessionError) Unit},
      Reply.isStuck (q.map fun _ => none) = false → q ≠ .error .stuck := by
    rintro q hq rfl
    cases hq
  cases d with
  | start artifact serial p =>
      rw [Deed.call, Trial.map_apply] at hr
      rcases hc : start S.traced artifact serial p (s, x) with ⟨q, s₁, x₁⟩
      rw [hc] at hr
      cases hr
      rw [hnone]
      exact ⟨q, .single ⟨_, .start hc⟩⟩
  | connect =>
      rw [Deed.call, Trial.map_apply] at hr
      rcases hc : connect S.traced (s, x) with ⟨q, s₁, x₁⟩
      rw [hc] at hr
      cases hr
      rw [hnone]
      exact ⟨q, connect_course hc (hmapped hstuck)⟩
  | take =>
      rcases takeChannels_gives s x with heq | ⟨a, b, -, -, heq⟩
      · cases heq.symm.trans hr
        exact ⟨.ok (), .single ⟨_, .take heq⟩⟩
      · cases heq.symm.trans hr
        exact ⟨.ok (), .single ⟨_, .take heq⟩⟩
  | stop =>
      rw [Deed.call, Trial.map_apply] at hr
      rcases hc : stop S.traced (s, x) with ⟨q, s₁, x₁⟩
      rw [hc] at hr
      cases hr
      rw [hnone]
      have hsteps : Steps S ⟨s, .free last, x⟩ ⟨s', .free q, x'⟩ :=
        stop_steps hc (hmapped hstuck)
      exact ⟨q, hsteps.course handed⟩

/-- A stop of a session that runs leaves it stopped. -/
theorem stop_leaves_stopped (hp : s.phase = .started ∨ s.phase = .connected) {r : Reply}
    {s' : Session} {x' : σ × Trace} (hr : Deed.stop.call S.traced (s, x) = (r, s', x'))
    (hstuck : r.isStuck = false) : s'.phase = .stopped := by
  obtain ⟨w, t⟩ := x
  obtain ⟨_, -, hst⟩ := stop_stops S hp w t
  rw [Deed.call, Trial.map_apply] at hr
  generalize stop S.traced (s, w, t) = y at hr hst
  obtain ⟨q, s₁, x₁⟩ := y
  dsimp only at hst
  cases hr
  cases hst with
  | stuckClosing | stuckWaiting => cases hstuck
  | stopped => rfl

end Session

end DeviceLink
