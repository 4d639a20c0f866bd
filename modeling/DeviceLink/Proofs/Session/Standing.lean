import DeviceLink.Proofs.Session.Deed
import DeviceLink.Proofs.Session.Linking
import Mathlib.Data.List.Chain
/-!
# Sessions — how a session stands between two calls

What a session holds follows from its phase: one way to its agent and no other
while it runs, a watcher where the agent is a process of its own, a listener
where the agent connects, and nothing of all that before it was started and
after it was stopped. `Standing` says so; every call that comes to an end keeps
it, so it holds after any number of them (`stands_throughout`), and the branches
of a connect for a session that has no way to its agent are never taken.
-/

namespace DeviceLink

/-- **One phase comes after another**, as seen between two calls. A session
that was started may be stopped without being connected, and what was stopped
stays so. -/
inductive Phase.Leads : Phase → Phase → Prop
  | stays (p : Phase) : Leads p p
  | starts : Leads .idle .started
  | connects : Leads .started .connected
  | gives : Leads .started .stopped
  | stops : Leads .connected .stopped

namespace Session

open Connection Vigil

/-- Whether a call waits for ever. -/
def Reply.isStuck : Reply → Bool
  | .error .stuck => true
  | _ => false

/-- Every call came to its end. -/
def Completed (replies : List (Reply × Phase)) : Prop := ∀ y ∈ replies, y.1.isStuck = false

instance (replies : List (Reply × Phase)) : Decidable (Completed replies) :=
  inferInstanceAs (Decidable (∀ y ∈ replies, y.1.isStuck = false))

/-- Whether the channels were handed over. -/
def Reply.handsOver : Reply → Bool
  | .ok (some _) => true
  | _ => false

/-- **What a session that runs holds.** -/
structure Running (s : Session) : Prop where
  /-- There is one way to the agent: an endpoint that activated it or a tunnel. -/
  way : s.activator.isSome = !s.tunnel.isSome
  /-- An agent that runs through the bridge is watched. -/
  watched : s.vigil.watcher.isSome = s.activator.isNone
  /-- The host listens behind a reverse tunnel. -/
  heard : s.vigil.listener.isSome = true ↔ s.direction = some .reverse
  /-- It does so on the tunnel's port. -/
  port : ∀ l, s.vigil.listener = some l → s.localPort = some l.port

/-- **How a session stands.** -/
structure Standing (s : Session) : Prop where
  /-- The phases that are only passed through are never seen. -/
  seen : s.phase ∈ [Phase.idle, .started, .connected, .stopped]
  running : s.phase = .started ∨ s.phase = .connected → Running s
  control : s.control.isSome = true → s.phase = .connected ∧ s.video.isSome = true
  atRest : s.phase = .idle ∨ s.phase = .stopped →
    s.vigil.watcher = none ∧ s.vigil.listener = none ∧ s.video = none ∧ s.control = none

/-- A session that stands, with what is to be known of it to see that it goes
on to stand. -/
structure Upright (s : Session) : Prop extends Standing s where
  /-- An idle session is a new one, but for its port range. -/
  fresh : s.phase = .idle → s = { portRange := s.portRange }
  sound : Vigil.Sound s.vigil

variable {σ : Type} {S : Surroundings σ} {s : Session} {w : σ} {t : Trace}

theorem upright_new (range : PortRange) : Upright { portRange := range } :=
  ⟨⟨by simp, fun h => (by rcases h with h | h <;> cases h), fun h => (by cases h),
    fun _ => ⟨rfl, rfl, rfl, rfl⟩⟩, fun _ => rfl,
    .of_new (fun _ h => (nomatch h)) fun _ h => (nomatch h)⟩

/-! ## Starts -/

/-- What was activated is the one way to the agent. -/
theorem upright_started {artifact : String} {serial : Option String} {p : Params} {es : Trace}
    {a : Activated} (hs : s = { portRange := s.portRange })
    (h : Starts artifact serial p es (.ok a)) : Upright (s.started serial p a) := by
  rw [hs]
  have hnone : ∀ {a : Activated} {q : Prop}, (started { portRange := s.portRange } serial p a).phase
      = .idle ∨ (started { portRange := s.portRange } serial p a).phase = .stopped → q := by
    rintro a q (h | h) <;> cases h
  cases h with
  | @requested _ a =>
      refine ⟨⟨by simp [started], fun _ => ⟨rfl, rfl, ?_, ?_⟩, ?_, hnone⟩, ?_, ?_⟩
      · constructor <;> intro h <;> cases h
      · intro l hl; cases hl
      · intro h; cases h
      · intro h; cases h
      · exact .of_new (fun _ h => (nomatch h)) fun _ h => (nomatch h)
  | @run u l process es _ hen =>
      refine ⟨⟨by simp [started], fun _ => ⟨rfl, rfl, ?_, ?_⟩, ?_, hnone⟩, ?_, ?_⟩
      · obtain ⟨hd, bound, rfl⟩ | ⟨hd, rfl⟩ := hen.listener
        · exact ⟨fun _ => congrArg some hd, fun _ => rfl⟩
        · refine ⟨fun h => (nomatch h), fun h => ?_⟩
          have hd' : u.direction = .reverse := Option.some.inj h
          rw [hd] at hd'
          cases hd'
      · intro k hk
        obtain ⟨-, bound, rfl⟩ | ⟨-, rfl⟩ := hen.listener
        · cases hk; rfl
        · cases hk
      · intro h; cases h
      · intro h; cases h
      · refine .of_new (fun k hk => ?_) fun x hx => ?_
        · obtain ⟨-, bound, rfl⟩ | ⟨-, rfl⟩ := hen.listener
          · cases hk; rfl
          · cases hk
        · cases hx; rfl

theorem upright_start (h : Upright s) (artifact : String) (serial : Option String) (p : Params) :
    Upright (start S.traced artifact serial p (s, w, t)).2.1 ∧
      s.phase.Leads (start S.traced artifact serial p (s, w, t)).2.1.phase := by
  by_cases hs : s.phase = .idle
  · have hfresh := h.fresh hs
    obtain ⟨es, w', r, hst, heq⟩ := start_starts S artifact serial p hs w t
    rw [heq, hs]
    rcases r with e | a
    · rw [hfresh]
      exact ⟨upright_new p.portRange, .stays _⟩
    · exact ⟨upright_started hfresh hst, .starts⟩
  · rw [start_refused S.traced artifact serial p hs]
    exact ⟨h, .stays _⟩

/-! ## Connects -/

/-- What a session holds while it runs, it holds on while the vigil is kept. -/
theorem Running.kept {s' : Session} {es : Trace} (h : Running s)
    (hk : s.vigil.Keeps s'.vigil es) (ha : s'.activator = s.activator)
    (hu : s'.tunnel = s.tunnel) : Running s' := by
  refine ⟨?_, ?_, ?_, fun l hl => ?_⟩
  · rw [ha, hu]; exact h.way
  · rw [hk.isSome_watcher, ha]; exact h.watched
  · rw [hk.isSome_listener, direction, hu]; exact h.heard
  · have hplace := hk.listener
    rw [hl] at hplace
    obtain ⟨k, hk, hplace⟩ := Option.map_eq_some_iff.1 hplace.symm
    have hport : k.port = l.port := congrArg Prod.fst hplace
    rw [localPort, hu, ← hport]
    exact h.port k hk

/-- A session that runs has a way to its agent. -/
theorem Running.reachable (h : Running s) (ha : s.activator = none) :
    ∃ u, s.tunnel = some u ∧ (u.direction = .reverse → s.vigil.listener.isSome = true) := by
  have hway := h.way
  rw [ha] at hway
  obtain ⟨u, hu⟩ := Option.isSome_iff_exists.1 (by simpa using hway.symm)
  refine ⟨u, hu, fun hd => h.heard.2 ?_⟩
  rw [direction, hu, ← hd]
  rfl

/-- Both channels are there after a connect that went well, and no new control
channel after one that failed. -/
theorem Pairs.channels {A B : Trace → Except (Halt SessionError) Stream → Prop}
    {old old' x y : Option Stream} {es : Trace} {r : Except (Halt SessionError) Unit}
    (h : Pairs A B old old' es r x y) (hr : r ≠ .error .stuck) :
    (r = .ok () → x.isSome = true ∧ y.isSome = true) ∧ (r ≠ .ok () → y = old') := by
  cases h with
  | noVideo _ => exact ⟨fun h => (nomatch h), fun _ => rfl⟩
  | noControl _ _ => exact ⟨fun h => (nomatch h), fun _ => rfl⟩
  | both _ _ hr' => exact ⟨fun _ => ⟨rfl, rfl⟩, fun hne => absurd (hr'.resolve_right hr) hne⟩

theorem Linking.channels {es : Trace} {r : Except (Halt SessionError) Unit} {x y : Option Stream}
    (h : Linking s es r x y) (hr : r ≠ .error .stuck) :
    (r = .ok () → x.isSome = true ∧ y.isSome = true) ∧ (r ≠ .ok () → y = s.control) := by
  cases h with
  | direct _ h | forward _ _ _ h | reverse _ _ _ _ h => exact h.channels hr
  | unheard | untunnelled => exact ⟨fun h => (nomatch h), fun _ => rfl⟩

theorem upright_connect (h : Upright s) (hr : (connect S.traced (s, w, t)).1 ≠ .error .stuck) :
    Upright (connect S.traced (s, w, t)).2.1 ∧
      s.phase.Leads (connect S.traced (s, w, t)).2.1.phase := by
  by_cases hs : s.phase = .started
  · obtain ⟨_, -, hc⟩ := connect_connects S hs w t
    obtain ⟨_, ⟨es, -, hk, -⟩, hl⟩ := connect_conveys S h.sound hs w t
    generalize connect S.traced (s, w, t) = y at hr hc hk hl ⊢
    obtain ⟨r, s', x⟩ := y
    dsimp only at hr hc hk hl ⊢
    have hchannels := hl.channels hr
    have hrunning := h.running (.inl hs)
    have hsound := hk.sound h.sound
    -- A connect that failed has left the control channel as it was: there was none.
    have hcontrol : s.control = none := by
      by_contra hne
      have hphase := (h.control (Option.isSome_iff_ne_none.2 hne)).1
      rw [hs] at hphase
      cases hphase
    have hconnected : ∀ {s' : Session}, s.vigil.Keeps s'.vigil es → s'.phase = .connected →
        s'.activator = s.activator → s'.tunnel = s.tunnel → s'.video.isSome = true →
        Upright s' := by
      intro s' hk hp ha hu hv
      have hno : ∀ {q : Prop}, s'.phase = .idle ∨ s'.phase = .stopped → q := by
        rintro q (h | h) <;> rw [hp] at h <;> cases h
      exact ⟨⟨by rw [hp]; decide, fun _ => hrunning.kept hk ha hu, fun _ => ⟨hp, hv⟩, hno⟩,
        fun h => hno (.inl h), hk.sound h.sound⟩
    cases hc with
    | @failed _ _ e hlinks =>
        obtain ⟨-, hphase, -, ha, hu, -⟩ := hlinks.same
        have hy : s'.control = none := (hchannels.2 fun h => by cases h).trans hcontrol
        have hp : s'.phase = .started := hphase.trans hs
        have hno : ∀ {q : Prop}, s'.phase = .idle ∨ s'.phase = .stopped → q := by
          rintro q (h | h) <;> rw [hp] at h <;> cases h
        refine ⟨⟨⟨by rw [hp]; decide, fun _ => hrunning.kept hk ha hu, fun h => ?_, hno⟩,
          fun h => hno (.inl h), hsound⟩, by rw [hphase]; exact .stays _⟩
        rw [hy] at h
        cases h
    | kept _ hlinks =>
        obtain ⟨-, -, -, ha, hu, -⟩ := hlinks.same
        rw [hs]
        exact ⟨hconnected hk rfl ha hu (hchannels.1 rfl).1, .connects⟩
    | unmapped _ _ _ hlinks =>
        obtain ⟨-, -, -, ha, hu, -⟩ := hlinks.same
        rw [hs]
        exact ⟨hconnected hk rfl ha hu (hchannels.1 rfl).1, .connects⟩
  · rw [connect_refused S.traced hs]
    exact ⟨h, .stays _⟩

/-! ## Stops -/

theorem upright_stop (h : Upright s) (hr : (stop S.traced (s, w, t)).1 ≠ .error .stuck) :
    Upright (stop S.traced (s, w, t)).2.1 ∧
      s.phase.Leads (stop S.traced (s, w, t)).2.1.phase ∧
      ((stop S.traced (s, w, t)).2.1 = s ∨ (stop S.traced (s, w, t)).2.1.phase = .stopped) := by
  by_cases hs : s.phase = .started ∨ s.phase = .connected
  · obtain ⟨_, -, hst⟩ := stop_stops S hs w t
    generalize stop S.traced (s, w, t) = y at hr hst ⊢
    obtain ⟨r, s', x⟩ := y
    dsimp only at hr hst ⊢
    cases hst with
    | stuckClosing | stuckWaiting => exact absurd rfl hr
    | stopped _ _ _ hl hx =>
        refine ⟨⟨⟨by simp [dismantled], fun h => ?_, fun h => (nomatch h),
          fun _ => ⟨hx, hl, rfl, rfl⟩⟩, fun h => (nomatch h),
          .of_new (fun l h => ?_) fun x h => ?_⟩, ?_, .inr rfl⟩
        · rcases h with h | h <;> cases h
        · exact absurd (hl.symm.trans h) (by simp)
        · exact absurd (hx.symm.trans h) (by simp)
        · rcases hs with hs | hs <;> rw [hs]
          · exact .gives
          · exact .stops
  · obtain ⟨w', heq⟩ := stop_other S (fun h => hs (.inl h)) (fun h => hs (.inr h)) w t
    rw [heq]
    exact ⟨h, .stays _, .inl rfl⟩

/-! ## Channels -/

/-- The channels were handed over, or will never be. -/
def Spent (s : Session) : Prop :=
  (s.phase = .connected ∨ s.phase = .stopped) ∧ s.control = none

/-- Channels are handed over by a session that has both, which has neither
then. -/
theorem takeChannels_gives (s : Session) (x : σ) :
    takeChannels (s, x) = (.ok none, s, x) ∨
      ∃ a b, s.video = some a ∧ s.control = some b ∧
        takeChannels (s, x) = (.ok (some (a, b)), { s with video := none, control := none }, x) := by
  simp only [takeChannels, Trial.bind_apply, current_apply]
  rcases hv : s.video with _ | a
  · exact .inl rfl
  rcases hc : s.control with _ | b
  · exact .inl rfl
  · exact .inr ⟨a, b, rfl, rfl, rfl⟩

/-- **What a deed does** to a session that stands, if it comes to its end. -/
structure Goes (s : Session) (r : Reply) (s' : Session) : Prop where
  upright : Upright s'
  leads : s.phase.Leads s'.phase
  spent : Spent s → Spent s'
  gives : r.handsOver = true → s'.phase = .connected ∧ ¬ Spent s ∧ Spent s'

/-- A call that hands nothing over, and leaves alone what was handed over or
takes it down. -/
theorem Goes.of_leads {s' : Session} {r : Except (Halt SessionError) Unit} (h : Upright s')
    (hl : s.phase.Leads s'.phase) (hspent : Spent s → s' = s ∨ s'.phase = .stopped) :
    Goes s (r.map fun _ => none) s' := by
  refine ⟨h, hl, fun hs => ?_, fun hr => ?_⟩
  · rcases hspent hs with rfl | hp
    · exact hs
    · exact ⟨.inr hp, (h.atRest (.inr hp)).2.2.2⟩
  · cases r <;> cases hr

theorem goes_take (h : Upright s) :
    Goes s (takeChannels (s, w, t)).1 (takeChannels (s, w, t)).2.1 := by
  rcases takeChannels_gives s (w, t) with heq | ⟨a, b, -, hb, heq⟩ <;> rw [heq]
  · exact ⟨h, .stays _, id, fun hr => (nomatch hr)⟩
  · -- A session that has a control channel is connected.
    obtain ⟨hp, -⟩ := h.control (by rw [hb]; rfl)
    have hno : ∀ {q : Prop}, s.phase = .idle ∨ s.phase = .stopped → q := by
      rintro q (h | h) <;> rw [hp] at h <;> cases h
    have hrunning : Running { s with video := none, control := none } := by
      obtain ⟨hway, hwatched, hheard, hport⟩ := h.running (.inr hp)
      exact ⟨hway, hwatched, hheard, hport⟩
    refine ⟨⟨⟨h.seen, fun _ => hrunning, fun hc => (nomatch hc), hno⟩, fun hi => hno (.inl hi),
      h.sound⟩, .stays _, fun _ => ⟨.inl hp, rfl⟩, fun _ => ⟨hp, fun hspent => ?_, .inl hp, rfl⟩⟩
    have hcontrol := hspent.2
    rw [hb] at hcontrol
    cases hcontrol

/-! ## Any number of deeds -/

/-- **Every deed that comes to its end** leaves a session that stands. -/
theorem goes_deed (h : Upright s) (d : Deed)
    (hr : Reply.isStuck (d.call S.traced (s, w, t)).1 = false) :
    Goes s (d.call S.traced (s, w, t)).1 (d.call S.traced (s, w, t)).2.1 := by
  have hphase : ∀ {p : Phase}, p = .idle ∨ p = .started → Spent s → s.phase ≠ p := by
    rintro p (rfl | rfl) ⟨hs | hs, -⟩ hp <;> rw [hs] at hp <;> cases hp
  have hmapped : ∀ {r : Except (Halt SessionError) Unit},
      Reply.isStuck (r.map fun _ => none) = false → r ≠ .error .stuck := by
    rintro r hr rfl
    cases hr
  cases d with
  | start artifact serial p =>
      rw [Deed.call, Trial.map_apply]
      obtain ⟨hup, hl⟩ := upright_start (S := S) (w := w) (t := t) h artifact serial p
      refine .of_leads hup hl fun hs => .inl ?_
      rw [start_refused S.traced artifact serial p (hphase (.inl rfl) hs)]
  | connect =>
      rw [Deed.call, Trial.map_apply] at hr ⊢
      obtain ⟨hup, hl⟩ := upright_connect h (hmapped hr)
      refine .of_leads hup hl fun hs => .inl ?_
      rw [connect_refused S.traced (hphase (.inr rfl) hs)]
  | take => exact goes_take h
  | stop =>
      rw [Deed.call, Trial.map_apply] at hr ⊢
      obtain ⟨hup, hl, hend⟩ := upright_stop h (hmapped hr)
      exact .of_leads hup hl fun _ => hend

/-- What a session that stands goes through. -/
structure Goings (s : Session) (replies : List (Reply × Phase)) (s' : Session) : Prop where
  upright : Upright s'
  leads : List.IsChain Phase.Leads (s.phase :: replies.map (·.2))
  /-- The channels are handed over at most once, and not again. -/
  once : replies.countP (·.1.handsOver) ≤ 1
  never : Spent s → replies.countP (·.1.handsOver) = 0
  connected : ∀ x ∈ replies, x.1.handsOver = true → x.2 = .connected

theorem goings_play (ds : List Deed) {s : Session} {w : σ} {t : Trace} (h : Upright s)
    (hc : Completed (play S.traced ds (s, w, t)).1) :
    Goings s (play S.traced ds (s, w, t)).1 (play S.traced ds (s, w, t)).2.1 := by
  induction ds generalizing s w t with
  | nil => exact ⟨h, .singleton _, Nat.zero_le 1, fun _ => rfl, fun x hx => (nomatch hx)⟩
  | cons d ds ih =>
      rw [play_cons] at hc ⊢
      have hgoes := goes_deed h d (hc _ List.mem_cons_self)
      have hrest := ih hgoes.upright fun y hy => hc y (List.mem_cons_of_mem _ hy)
      generalize d.call S.traced (s, w, t) = y at hgoes hrest ⊢
      obtain ⟨r, s', x⟩ := y
      dsimp only at hgoes hrest ⊢
      refine ⟨hrest.upright, .cons_cons hgoes.leads hrest.leads, ?_, fun hs => ?_,
        fun y hy hr => ?_⟩
      · rw [List.countP_cons]
        by_cases hr : Reply.handsOver r = true
        · rw [hrest.never (hgoes.gives hr).2.2, if_pos hr]
        · rw [if_neg hr]
          exact hrest.once
      · rw [List.countP_cons, hrest.never (hgoes.spent hs), if_neg fun hr => ?_]
        exact (hgoes.gives hr).2.1 hs
      · rcases List.mem_cons.1 hy with rfl | hy
        · exact (hgoes.gives hr).1
        · exact hrest.connected y hy hr

/-! ## Branches not taken -/

/-- Why a connect of a session that runs fails: an agent that serves nobody, or
one that is gone, but never that there is no way to it. -/
theorem Linking.error {es : Trace} {h : Halt SessionError} {x y : Option Stream}
    (hs : Running s) (hl : Linking s es (.error h) x y) (operation : String) (phase : Phase) :
    h ≠ .failed (.invalidState operation phase) := by
  have hprobed : ∀ {e : Endpoint} {n : Nat} {x y : Option Stream},
      Pairs (Tried e n) (Dialed e) s.video s.control es (.error h) x y →
      h ≠ .failed (.invalidState operation phase) := by
    rintro e n x y hp rfl
    cases hp with
    | noVideo ht => rcases ht.error with hk | ⟨n, hk⟩ <;> cases hk
    | noControl _ hd => cases hd
    | both _ _ hr => rcases hr with hr | hr <;> cases hr
  rintro rfl
  cases hl with
  | direct _ hp => exact hprobed hp rfl
  | forward _ _ _ hp => exact hprobed hp rfl
  | reverse _ _ _ _ hp =>
      cases hp with
      | noVideo ha => cases ha
      | noControl _ ha => cases ha
      | both _ _ hr => rcases hr with hr | hr <;> cases hr
  | untunnelled ha hu =>
      obtain ⟨u, hu', -⟩ := hs.reachable ha
      rw [hu] at hu'
      cases hu'

/-- **A session stands as its phase says**, after any number of calls that came
to their end, whatever came of them: it goes through its phases in their order,
it has what it runs with and nothing else, and it hands its channels over once
at most, when it is connected. A connect finds the way that the agent was
activated on: a tunnel where the agent is a process, and a listener where the
tunnel is a reverse one. -/
theorem stands_throughout {ds : List Deed} {replies : List (Reply × Phase)} {x : σ × Trace}
    (h : play S.traced ds ({}, w, []) = (replies, s, x)) (hc : Completed replies) :
    Standing s ∧ List.IsChain Phase.Leads (.idle :: replies.map (·.2)) ∧
      (s.phase = .started →
        (s.activator = none → ∃ u, s.tunnel = some u ∧
          (u.direction = .reverse → s.vigil.listener.isSome = true)) ∧
        ∀ operation phase,
          (connect S.traced (s, x)).1 ≠ .error (.failed (.invalidState operation phase))) ∧
      replies.countP (·.1.handsOver) ≤ 1 ∧
      ∀ y ∈ replies, y.1.handsOver = true → y.2 = .connected := by
  have hgoings := goings_play (S := S) (w := w) (t := []) ds (upright_new .standard)
    (by rw [h]; exact hc)
  rw [h] at hgoings
  have hup := hgoings.upright
  refine ⟨hup.toStanding, hgoings.leads, fun hp => ⟨(hup.running (.inl hp)).reachable, ?_⟩,
    hgoings.once, hgoings.connected⟩
  obtain ⟨w', t'⟩ := x
  obtain ⟨es, -, hl⟩ := connect_conveys S hup.sound hp w' t'
  intro operation phase hr
  rw [hr] at hl
  exact hl.error (hup.running (.inl hp)) operation phase rfl

/-- A session with an agent that serves is started, connected, asked for its
channels twice and stopped, and hands them over once. -/
theorem serving_stands_throughout :
    let y := play Surroundings.serving.traced
      [.start "agent" none {}, .connect, .take, .take, .stop] ({}, {}, [])
    Completed y.1 ∧ Standing y.2.1 ∧ y.2.1.phase = .stopped ∧
      y.1.countP (·.1.handsOver) = 1 := by
  intro y
  have hcompleted : Completed y.1 := by decide +kernel
  obtain ⟨hstanding, -⟩ := stands_throughout (S := Surroundings.serving) (w := {}) rfl hcompleted
  exact ⟨hcompleted, hstanding, by decide +kernel, by decide +kernel⟩

end Session

end DeviceLink
