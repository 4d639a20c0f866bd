import DeviceLink.Proofs.Session.Scene
import DeviceLink.Proofs.Watcher.Order
/-!
# Sessions — an agent that is gone keeps nobody waiting

An owner that accepts a connection waits for an agent, and the agent may be
gone. The watcher tells the termination first and closes the listener then, so
an accept that gives up for a closed listener finds the termination told.
`Guarded` says how far the watcher has come while nobody else closes the
listener; every step keeps it for as long as the owner has not begun a close of
its own, and `dying_agent_unblocks` draws the conclusions.
-/

namespace DeviceLink

namespace Vigil

/-- The watcher's close has passed the gate. -/
def Past (x : Watcher) : Prop :=
  x.stage = .finished ∨ ∃ c, x.stage = .closing c ∧ c.isPast = true

/-- The watcher's close has told the accepts to give up. -/
def Shut (x : Watcher) : Prop :=
  x.stage = .finished ∨ ∃ c, x.stage = .closing c ∧ c.isPast = true ∧ c ≠ .shutting

/-- **A watcher guards a listener that it alone closes**: what the listener's
flags and the termination say of the watcher. -/
structure Guarded (v : Vigil) (l : Listener) (x : Watcher) : Prop where
  listener : v.listener = some l
  watcher : v.watcher = some x
  guards : x.guards = true
  calm : Calm x
  /-- The termination is told before the watcher turns to the listener. -/
  told : Closing x → v.terminated = true
  close : ∀ c, x.stage = .closing c → c = .closing ∨ c.isPast = true
  flags : l.gate = true ∨ l.shut = true ∨ l.dropped = true → Past x
  shut : Shut x → l.shut = true

theorem Past.closing {x : Watcher} (h : Past x) : Closing x := by
  rcases h with h | ⟨c, h, -⟩
  · exact .inl h
  · exact .inr ⟨c, h⟩

variable {σ : Type} {v v' : Vigil} {l l' : Listener} {x : Watcher} {y y' : σ × Trace}

/-- A watcher that has not turned to the listener has left its flags alone. -/
theorem Guarded.flags_of_not_closing (h : Guarded v l x) (hx : ¬ Closing x) :
    ¬ (l.gate = true ∨ l.shut = true ∨ l.dropped = true) := fun hl =>
  hx (h.flags hl).closing

/-- The watcher's own call on the listener sets the flags one after the
other. -/
theorem Guarded.call (h : Guarded v l x) {c c' : Listener.Call} (hs : x.stage = .closing c)
    (hm : Listener.Call.Does watcherId c l y c' l' y') :
    Guarded ({ v with listener := some l' }.withStage x (.closing c')) l'
      { x with stage := .closing c' } := by
  have htold := h.told (.inr ⟨c, hs⟩)
  -- Nobody else closes the listener, so the gate is still open to this close.
  have hgate : c = .closing → ¬ l.gate = true := by
    rintro rfl hg
    rcases h.flags (.inl hg) with hx | ⟨c, hx, hp⟩ <;> rw [hs] at hx <;> cases hx
    cases hp
  have hshut : c.isPast = true → c ≠ .shutting → l.shut = true := fun hp hne =>
    h.shut (.inr ⟨c, hs, hp, hne⟩)
  -- Past the gate, all that is asked for is the flag that comes after it.
  have hpast : c'.isPast = true → (c' ≠ .shutting → l'.shut = true) →
      Guarded ({ v with listener := some l' }.withStage x (.closing c')) l'
        { x with stage := .closing c' } := by
    intro hp hs'
    refine ⟨rfl, rfl, h.guards, ⟨h.calm.1, by simp, by simp⟩, fun _ => htold, ?_, ?_, ?_⟩
    · intro d hx; cases hx; exact .inr hp
    · exact fun _ => .inr ⟨c', rfl, hp⟩
    · rintro (hx | ⟨d, hx, -, hne⟩) <;> cases hx
      exact hs' hne
  rcases h.close c hs with rfl | hp
  · cases hm with
    | lose hg => exact absurd hg (hgate rfl)
    | pass _ => exact hpast rfl fun hne => absurd rfl hne
  · cases hm with
    | shut => exact hpast rfl fun _ => rfl
    | hold _ => exact hpast rfl fun _ => hshut rfl (by simp)
    | drop => exact hpast rfl fun _ => hshut rfl (by simp)
    | _ => cases hp

/-- The watcher keeps guarding. -/
theorem Guarded.watch (h : Guarded v l x) (hm : Does v x y v' y') :
    ∃ l' x', Guarded v' l' x' := by
  cases hm with
  | reap hs =>
      have hno : ¬ Closing x := by
        rintro (hx | ⟨c, hx⟩) <;> rw [hx] at hs <;> rcases hs with hs | hs <;> cases hs
      refine ⟨l, { x with stage := .telling }, h.listener, rfl, h.guards,
        ⟨h.calm.1, by simp, by simp⟩, ?_, ?_, ?_, ?_⟩
      · rintro (hx | ⟨c, hx⟩) <;> cases hx
      · intro c hx; cases hx
      · exact fun hl => absurd hl (h.flags_of_not_closing hno)
      · rintro (hx | ⟨c, hx, -⟩) <;> cases hx
  | ask hs hk => rw [h.calm.1] at hk; cases hk
  | kill hs => exact absurd hs h.calm.2.1
  | tell hs =>
      have hno : ¬ Closing x := by
        rintro (hx | ⟨c, hx⟩) <;> rw [hx] at hs <;> cases hs
      rw [if_pos h.guards]
      refine ⟨l, { x with stage := .closing .closing }, h.listener, rfl, h.guards,
        ⟨h.calm.1, by simp, by simp⟩, fun _ => rfl, ?_, ?_, ?_⟩
      · intro c hx; cases hx; exact .inl rfl
      · exact fun hl => absurd hl (h.flags_of_not_closing hno)
      · rintro (hx | ⟨c, hx, hp, -⟩) <;> cases hx
        cases hp
  | @call _ _ l₀ l' c c' hs hl hm =>
      obtain rfl : l₀ = l := Option.some.inj (hl.symm.trans h.listener)
      exact ⟨l', _, h.call hs hm⟩
  | @finish _ c hs hover =>
      -- There is a listener, so the close is over and has shut it.
      have hover := hover (by rw [h.listener]; rfl)
      have hshut : l.shut = true := by
        refine h.shut (.inr ⟨c, hs, ?_, ?_⟩)
        · rcases h.close c hs with rfl | hp
          · cases hover
          · exact hp
        · rintro rfl
          cases hover
      exact ⟨l, { x with stage := .finished }, h.listener, rfl, h.guards,
        ⟨h.calm.1, by simp, by simp⟩, fun _ => h.told (.inr ⟨c, hs⟩), (fun c hx => (nomatch hx)),
        fun _ => .inl rfl, fun _ => hshut⟩

/-- An accept touches nothing of a listener but the lock, and gives up only
where the termination was told. -/
theorem Guarded.accept (h : Guarded v l x) {id : Nat} {c c' : Listener.Call}
    (hc : c.isAccept = true) (hm : Listener.Call.Does id c l y c' l' y') :
    Guarded { v with listener := some l' } l' x ∧ c'.isAccept = true ∧
      (c' = .accepted none → v.terminated = true) := by
  -- Where an accept gives up, the watcher has turned to the listener before.
  have htold : l.shut = true ∨ l.dropped = true → v.terminated = true := fun hl =>
    h.told (h.flags (.inr hl)).closing
  have hkeep : ∀ {l' : Listener}, l'.gate = l.gate → l'.shut = l.shut → l'.dropped = l.dropped →
      Guarded { v with listener := some l' } l' x := by
    intro l' hg hs hd
    exact ⟨rfl, h.watcher, h.guards, h.calm, h.told, h.close, by rw [hg, hs, hd]; exact h.flags,
      by rw [hs]; exact h.shut⟩
  cases hm with
  | giveUp hs => exact ⟨hkeep rfl rfl rfl, rfl, fun _ => htold (.inl hs)⟩
  | lock _ => exact ⟨hkeep rfl rfl rfl, rfl, fun hc => (nomatch hc)⟩
  | wake hs => exact ⟨hkeep rfl rfl rfl, rfl, fun _ => htold hs⟩
  | take _ => exact ⟨hkeep rfl rfl rfl, rfl, fun hc => (nomatch hc)⟩
  | refuse _ => exact ⟨hkeep rfl rfl rfl, rfl, fun hc => (nomatch hc)⟩
  | _ => cases hc

end Vigil

namespace Session

open Vigil

variable {σ : Type} {S : Surroundings σ}

/-! ## While the owner has not begun a close -/

/-- Whether the owner is between two calls, or accepts a connection. -/
def Owner.isOpen : Owner → Bool
  | .free _ => true
  | .calling e _ => e.isAccept
  | _ => false

/-- The session is started and the owner has not begun to close the
listener. -/
def Scene.Open (g : Scene σ) : Prop := g.session.phase = .started ∧ g.owner.isOpen = true

/-- **What every step keeps.** -/
structure Watched (g : Scene σ) : Prop where
  guarded : g.Open → ∃ l x, Guarded g.session.vigil l x
  accepting : ∀ e c, g.owner = .calling e c → e.isAccept = true →
    g.session.phase = .started ∧ c.isAccept = true ∧
      (c = .accepted none → g.session.vigil.terminated = true)

/-- The watcher that comes with an agent behind a reverse tunnel guards the
tunnel's listener. -/
theorem guarded_started {artifact : String} {serial : Option String} {p : Params} {es : Trace}
    {a : Activated} (h : Starts artifact serial p es (.ok a)) {s : Session}
    (ha : (s.started serial p a).activator = none)
    (hd : (s.started serial p a).direction = some .reverse) :
    ∃ l x, Guarded (s.started serial p a).vigil l x := by
  have hno : ∀ {process : RunningAgent} {guards : Bool} {c : Prop},
      Closing { process, guards } → c := by
    rintro _ _ _ (hx | ⟨c, hx⟩) <;> cases hx
  cases h with
  | requested => cases ha
  | @run u l process es _ hen =>
      obtain ⟨-, bound, rfl⟩ | ⟨hu, -⟩ := hen.listener
      · refine ⟨{ port := u.localPort, bound }, { process, guards := true }, rfl, rfl, rfl,
          ⟨rfl, by simp, by simp⟩, hno, (fun c hx => (nomatch hx)), (fun hl => ?_), fun hx => ?_⟩
        · simp at hl
        · rcases hx with hx | ⟨c, hx, -⟩ <;> cases hx
      · rw [show (s.started serial p (.agent u l process)).direction = some u.direction from rfl,
          hu] at hd
        cases hd

/-- A start of the owner leads to a watcher that guards a listener, or to a
session that is not started. -/
theorem guarded_start {artifact : String} {serial : Option String} {p : Params} {s s' : Session}
    {x x' : σ × Trace} {r : Except (Halt SessionError) Unit} (h : s.phase = .started →
      ∃ l x, Guarded s.vigil l x)
    (hr : Session.start S.traced artifact serial p (s, x) = (r, s', x'))
    (hd : r = .ok () → s'.activator = none ∧ s'.direction = some .reverse)
    (hs' : s'.phase = .started) : ∃ l x, Guarded s'.vigil l x := by
  by_cases hs : s.phase = .idle
  · obtain ⟨w, t⟩ := x
    obtain ⟨es, w', v, hst, heq⟩ := start_starts S artifact serial p hs w t
    rw [hr] at heq
    rcases v with e | a
    · cases heq
      cases hs'
    · cases heq
      exact guarded_started hst (hd rfl).1 (hd rfl).2
  · rw [start_refused S.traced artifact serial p hs] at hr
    cases hr
    exact h hs'

/-- **Every step keeps the watch.** -/
theorem Watched.step {g g' : Scene σ} (h : Watched g) {who : Party} (hs : Step S who g g') :
    Watched g' := by
  -- Steps after which the owner is in a close, or the session is not started.
  have hleft : ∀ {g' : Scene σ}, (g'.session.phase = .started → g'.owner.isOpen = false) →
      (∀ e c, g'.owner = .calling e c → e.isAccept = false) → Watched g' := by
    intro g' hopen hcalling
    refine ⟨fun ho => ?_, fun e c ho ha => ?_⟩
    · have hcontra := ho.2
      rw [hopen ho.1] at hcontra
      cases hcontra
    · rw [hcalling e c ho] at ha
      cases ha
  cases hs with
  | start hr hd =>
      exact ⟨fun ho => guarded_start (fun hp => h.guarded ⟨hp, rfl⟩) hr hd ho.1,
        fun e c ho => by cases ho⟩
  | connect hp _ =>
      refine ⟨fun ho => h.guarded ⟨hp, rfl⟩, fun e c ho _ => ?_⟩
      cases ho
      exact ⟨hp, rfl, fun hc => (nomatch hc)⟩
  | unheard hp _ => exact ⟨fun ho => h.guarded ⟨hp, rfl⟩, fun e c ho => by cases ho⟩
  | refused hp => exact ⟨fun ho => absurd ho.1 hp, fun e c ho => by cases ho⟩
  | @call s x x' e l l' c c' hl hm =>
      by_cases he : e.isAccept = true
      · obtain ⟨hp, hc, -⟩ := h.accepting e c rfl he
        obtain ⟨l₀, y, hg⟩ := h.guarded ⟨hp, he⟩
        obtain rfl : l = l₀ := Option.some.inj (hl.symm.trans hg.listener)
        obtain ⟨hg', hc', htold⟩ := hg.accept hc (Listener.Call.moves_does hm)
        refine ⟨fun _ => ⟨l', y, hg'⟩, fun e' d ho _ => ?_⟩
        cases ho
        exact ⟨hp, hc', htold⟩
      · have he : e.isAccept = false := Bool.eq_false_iff.2 he
        refine hleft (fun _ => he) fun e' d ho => ?_
        cases ho
        exact he
  | @video s s' x x' stream r hr =>
      obtain ⟨hp, -, -⟩ := h.accepting .video _ rfl rfl
      obtain ⟨w, t⟩ := x
      obtain ⟨w', hv⟩ := setVideo_apply S stream s w t
      rw [hv] at hr
      cases hr
      refine ⟨fun _ => h.guarded ⟨hp, rfl⟩, fun e c ho _ => ?_⟩
      cases ho
      exact ⟨hp, rfl, fun hc => (nomatch hc)⟩
  | control _ => exact hleft (fun _ => rfl) fun e c ho => by cases ho; rfl
  | @died s x e c he _ =>
      obtain ⟨hp, -, -⟩ := h.accepting e c rfl he
      exact ⟨fun _ => h.guarded ⟨hp, he⟩, fun e c ho => by cases ho⟩
  | connected => exact hleft (fun hp => by cases hp) fun e c ho => by cases ho
  | stop _ =>
      refine hleft (fun hp => by cases hp) fun e c ho => ?_
      dsimp only at ho
      split at ho <;> cases ho
      rfl
  | unstopped hp _ => exact ⟨fun ho => absurd ho.1 hp, fun e c ho => by cases ho⟩
  | deactivate _ =>
      refine hleft (fun _ => by dsimp only; split <;> rfl) fun e c ho => ?_
      dsimp only at ho
      split at ho <;> cases ho
  | closed | release _ | told _ | expired _ | joined _ =>
      exact hleft (fun _ => rfl) fun e c ho => by cases ho
  | stopped => exact hleft (fun hp => by cases hp) fun e c ho => by cases ho
  | watch hm =>
      obtain ⟨x, hx, hdoes⟩ := Vigil.moves_does hm
      refine ⟨fun ho => ?_, fun e c ho he => ?_⟩
      · obtain ⟨l, y, hg⟩ := h.guarded ho
        obtain rfl : x = y := Option.some.inj (hx.symm.trans hg.watcher)
        exact hg.watch hdoes
      · obtain ⟨hp, hc, htold⟩ := h.accepting e c ho he
        exact ⟨hp, hc, fun hn => hdoes.terminated (htold hn)⟩
  | elapse _ _ => exact ⟨fun ho => h.guarded ho, h.accepting⟩

theorem Watched.steps {g g' : Scene σ} (h : Watched g) (hs : Steps S g g') : Watched g' := by
  induction hs with
  | refl => exact h
  | tail _ ht ih =>
      obtain ⟨who, ht⟩ := ht
      exact ih.step ht

/-! ## Once the termination was told -/

/-- The termination was told, the session is not a new one, and its watcher
kills nothing. -/
structure Told (g : Scene σ) : Prop where
  terminated : g.session.vigil.terminated = true
  begun : g.session.phase ≠ .idle
  calm : ∀ x, g.session.vigil.watcher = some x → Calm x

/-- **Every step keeps it so**, and kills nothing. -/
theorem Told.step {g g' : Scene σ} (h : Told g) {who : Party} (hs : Step S who g g') :
    Told g' ∧ g'.world.2.filter Event.isKill = g.world.2.filter Event.isKill := by
  have hadded : ∀ {t es : Trace}, es.filter Event.isKill = [] →
      (t ++ es).filter Event.isKill = t.filter Event.isKill := by
    intro t es hes
    rw [List.filter_append, hes, List.append_nil]
  have hcloses : ∀ y : Option Stream, (closes y).filter Event.isKill = [] := by
    intro y
    cases y <;> rfl
  cases hs with
  | start hr _ =>
      rw [start_refused S.traced _ _ _ h.begun] at hr
      cases hr
      exact ⟨⟨h.terminated, h.begun, h.calm⟩, rfl⟩
  | connect _ _ | unheard _ _ | refused _ | died _ _ | unstopped _ _ | closed | told _ =>
      exact ⟨⟨h.terminated, h.begun, h.calm⟩, rfl⟩
  | @call s x x' e l l' c c' hl hm =>
      refine ⟨⟨h.terminated, h.begun, h.calm⟩, ?_⟩
      cases Listener.Call.moves_does hm with
      | take _ | refuse _ | drop => exact hadded rfl
      | _ => rfl
  | @video s s' x x' stream r hr =>
      obtain ⟨w, t⟩ := x
      obtain ⟨w', hv⟩ := setVideo_apply S stream s w t
      rw [hv] at hr
      cases hr
      exact ⟨⟨h.terminated, h.begun, h.calm⟩, hadded (hcloses _)⟩
  | @control s s' x x' stream r hr =>
      obtain ⟨w, t⟩ := x
      obtain ⟨w', hc⟩ := setControl_apply S stream s w t
      rw [hc] at hr
      cases hr
      exact ⟨⟨h.terminated, h.begun, h.calm⟩, hadded (hcloses _)⟩
  | connected | stop _ | stopped => exact ⟨⟨h.terminated, fun hp => (nomatch hp), h.calm⟩, rfl⟩
  | @release s s' x x' r hr =>
      obtain ⟨w, t⟩ := x
      obtain ⟨w', hc⟩ := closeChannels_apply S s w t
      rw [hc] at hr
      cases hr
      refine ⟨⟨h.terminated, h.begun, h.calm⟩, hadded ?_⟩
      rw [List.filter_append, hcloses, hcloses]
      rfl
  | @deactivate s s' x x' r hr =>
      obtain ⟨w, t⟩ := x
      obtain ⟨un, w', hd, hun⟩ := deactivate_undoes S s w t
      rw [hd] at hr
      cases hr
      refine ⟨⟨h.terminated, h.begun, h.calm⟩, hadded ?_⟩
      cases hun with
      | requested _ hreq => cases hreq <;> rfl
      | removed _ _ _ => rfl
      | nothing _ _ => rfl
  | expired hno => exact absurd (h.terminated.symm.trans hno) (by decide)
  | joined _ => exact ⟨⟨h.terminated, h.begun, fun x hx => (nomatch hx)⟩, rfl⟩
  | watch hm =>
      obtain ⟨x, hx, hdoes⟩ := Vigil.moves_does hm
      obtain ⟨hcalm, hkills⟩ := hdoes.calm (h.calm x hx)
      exact ⟨⟨hdoes.terminated h.terminated, h.begun, hcalm⟩, hkills⟩
  | elapse _ _ =>
      refine ⟨⟨h.terminated, h.begun, h.calm⟩, hadded ?_⟩
      simp [Event.isKill]

theorem Told.steps {g g' : Scene σ} (h : Told g) (hs : Steps S g g') :
    Told g' ∧ g'.world.2.filter Event.isKill = g.world.2.filter Event.isKill := by
  induction hs with
  | refl => exact ⟨h, rfl⟩
  | tail _ ht ih =>
      obtain ⟨who, ht⟩ := ht
      obtain ⟨h', hkills⟩ := ih.1.step ht
      exact ⟨h', hkills.trans ih.2⟩

/-! ## An agent that is gone -/

/-- A session nobody has called on. -/
theorem watched_new (last : Except (Halt SessionError) Unit) (x : σ × Trace) :
    Watched (⟨{}, .free last, x⟩ : Scene σ) :=
  ⟨fun ho => (nomatch ho.1), fun e c ho => by cases ho⟩

/-- **No accept is left alone.** An owner that accepts has a step once the
watcher is over. -/
theorem Watched.unblocked {g : Scene σ} (h : Watched g) {e : Errand} {c : Listener.Call}
    {x : Watcher} (ho : g.owner = .calling e c) (he : e.isAccept = true)
    (hx : g.session.vigil.watcher = some x) (hover : x.stage = .finished) :
    ∃ g', Step S .owner g g' := by
  obtain ⟨s, o, y⟩ := g
  obtain rfl : o = .calling e c := ho
  obtain ⟨hp, hc, -⟩ := h.accepting e c rfl he
  obtain ⟨l, x₀, hg⟩ := h.guarded ⟨hp, he⟩
  obtain rfl : x₀ = x := Option.some.inj (hg.watcher.symm.trans hx)
  have hshut := hg.shut (.inl hover)
  cases hcover : c.isOver with
  | false =>
      have hmove := Listener.Call.exists_move_of_shut hshut hcover
        (fun hw => by subst hw; cases hc) S.traced ownerId y
      obtain ⟨⟨c', l', y'⟩, hm⟩ := List.exists_mem_of_ne_nil _ hmove
      exact ⟨_, .call hg.listener hm⟩
  | true =>
      cases c with
      | accepted found =>
          rcases found with _ | stream
          · exact ⟨_, .died he (.inl rfl)⟩
          · cases e with
            | video => exact ⟨_, .video rfl⟩
            | control => exact ⟨_, .control rfl⟩
            | connected => cases he
            | stopping => cases he
      | refused cause => exact ⟨_, .died he (.inr ⟨cause, rfl⟩)⟩
      | queued | accepting => cases hcover
      | closing | shutting | waiting | dropping | closed _ => cases hc

/-- Where the termination was told, nobody waits for it. -/
theorem awaitTermination_of_terminated {v : Vigil} (h : v.terminated = true) (x : σ × Trace)
    (limit : Nat) : awaitTermination S.traced limit (v, x) = (true, v.settled S.traced x) := by
  have hsettled : (v.settled S.traced x).1.terminated = true :=
    settled_ends (P := fun v _ => v.terminated = true)
      (fun h hm => by obtain ⟨_, -, hdoes⟩ := moves_does hm; exact hdoes.terminated h) h
  change passUntil S.traced _ _ limit (v, x) = _
  rw [passUntil_apply, if_pos hsettled]

/-- An owner whose session's termination was told does not wait for it. -/
theorem Told.await {g g' : Scene σ} (h : Told g) (ho : g.owner = .awaiting)
    (hs : Step S .owner g g') : g' = { g with owner := .joining } := by
  cases hs with
  | told _ => rfl
  | expired hno => exact absurd (h.terminated.symm.trans hno) (by decide)
  | _ => cases ho

/-- **A dying agent always unblocks a pending accept**, in whatever order the
owner, the watcher and everything else take their steps. Once the watcher is
over, an owner that accepts has a step; and where a connect gives up because
the listener was closed, the termination was told before, so that from then on
nothing is killed and no stop waits for the agent to exit. -/
theorem dying_agent_unblocks {last : Except (Halt SessionError) Unit} {w : σ} {g : Scene σ}
    (h : Steps S ⟨{}, .free last, w, []⟩ g) :
    (∀ e c x, g.owner = .calling e c → e.isAccept = true → g.session.vigil.watcher = some x →
      x.stage = .finished → ∃ g', Step S .owner g g') ∧
    ∀ e g₁, g.owner = .calling e (.accepted none) → Step S .owner g g₁ →
      g₁.owner = .free (.error (.failed .remoteDied)) ∧
      g.session.vigil.terminated = true ∧
      ∀ g', Steps S g₁ g' →
        g'.session.vigil.terminated = true ∧
        (∀ x, g'.session.vigil.watcher = some x → x.killAsked = false) ∧
        g'.world.2.filter Event.isKill = g₁.world.2.filter Event.isKill ∧
        (g'.owner = .awaiting → Step S .owner g' { g' with owner := .joining } ∧
          ∀ g₂, Step S .owner g' g₂ → g₂ = { g' with owner := .joining }) ∧
        ∀ limit, awaitTermination S.traced limit (g'.session.vigil, g'.world) =
          (true, g'.session.vigil.settled S.traced g'.world) := by
  have hw := (watched_new last (w, [])).steps h
  refine ⟨fun e c x ho he hx hover => hw.unblocked ho he hx hover, fun e g₁ ho hs => ?_⟩
  cases hs with
  | @died s x e' c he _ =>
      cases ho
      obtain ⟨hp, -, hterm⟩ := hw.accepting e _ rfl he
      obtain ⟨l, y, hg⟩ := hw.guarded ⟨hp, he⟩
      have htold : Told (⟨s, .free (.error (.failed .remoteDied)), x⟩ : Scene σ) :=
        ⟨hterm rfl, by rw [hp]; decide, fun z hz => by
          rw [hg.watcher] at hz
          cases hz
          exact hg.calm⟩
      refine ⟨rfl, hterm rfl, fun g' hs' => ?_⟩
      obtain ⟨htold', hkills⟩ := htold.steps hs'
      refine ⟨htold'.terminated, fun z hz => (htold'.calm z hz).1, hkills, fun ho' => ⟨?_, ?_⟩,
        awaitTermination_of_terminated htold'.terminated g'.world⟩
      · obtain ⟨s', o', x'⟩ := g'
        obtain rfl : o' = .awaiting := ho'
        exact .told htold'.terminated
      · exact fun g₂ hs₂ => htold'.await ho' hs₂
  | call hl hm =>
      cases ho
      cases hm
  | _ => cases ho

/-- An agent that is gone at once: its watcher closes the listener while the
video connection is accepted. -/
theorem fleeting_agent_unblocks :
    ∃ g g₁ : Scene Unit, Steps Surroundings.fleeting ⟨{}, .free (.ok ()), (), []⟩ g ∧
      g.owner = .calling .video (.accepted none) ∧
      (∃ x, g.session.vigil.watcher = some x ∧ x.stage = .finished) ∧
      Step Surroundings.fleeting .owner g g₁ ∧ g.session.vigil.terminated = true := by
  let S := Surroundings.fleeting
  let l : Listener := { port := 27183, bound := 27183 }
  let x : Watcher := { process := { handle := 0, pid := none }, guards := true }
  obtain ⟨s, t, hrun, hd, hp, hv⟩ : ∃ (s : Session) (t : Trace),
      start S.traced "agent" none {} ({}, (), []) = (.ok (), s, (), t) ∧
      (s.activator = none ∧ s.direction = some .reverse) ∧ s.phase = .started ∧
      s.vigil = { listener := some l, watcher := some x } := ⟨_, _, rfl, ⟨rfl, rfl⟩, rfl, rfl⟩
  -- The vigil with the watcher at a stage, and the listener as it left it.
  let v (terminated : Bool) (l : Listener) (stage : WatchStage) : Vigil :=
    { terminated, listener := some l, watcher := some { x with stage } }
  let g (v : Vigil) (c : Listener.Call) (t : Trace) : Scene Unit :=
    ⟨{ s with vigil := v }, .calling .video c, (), t⟩
  let Run : Scene Unit → Prop := Steps S ⟨{}, .free (.ok ()), (), []⟩
  have hwatch : ∀ {v v' : Vigil} {t t' : Trace}, Run (g v .queued t) →
      (v', (), t') ∈ v.moves S.traced ((), t) → Run (g v' .queued t') :=
    fun h hm => h.step (.watch hm)
  have h₀ : Run (g (v false l .watching) .queued t) := by
    have hbegun : Run ⟨s, .free (.ok ()), (), t⟩ := .single ⟨_, .start hrun fun _ => hd⟩
    have hconnect := hbegun.step (.connect hp (by rw [hv]; rfl))
    have heq : s = { s with vigil := v false l .watching } := by
      change s = { s with vigil := { listener := some l, watcher := some x } }
      rw [← hv]
    rw [heq] at hconnect
    exact hconnect
  let l₁ : Listener := { l with gate := true }
  let l₂ : Listener := { l₁ with shut := true }
  let l₃ : Listener := { l₂ with holder := some watcherId }
  let l₄ : Listener := { l₂ with dropped := true }
  let t₁ := t ++ [.ended x.process (.ok ())]
  let t₂ := t₁ ++ [.unlisten 27183]
  have h₁ : Run (g (v false l .telling) .queued t₁) := hwatch h₀ List.mem_cons_self
  have h₂ : Run (g (v true l (.closing .closing)) .queued t₁) := hwatch h₁ List.mem_cons_self
  have h₃ : Run (g (v true l₁ (.closing .shutting)) .queued t₁) := hwatch h₂ List.mem_cons_self
  have h₄ : Run (g (v true l₂ (.closing .waiting)) .queued t₁) := hwatch h₃ List.mem_cons_self
  have h₅ : Run (g (v true l₃ (.closing .dropping)) .queued t₁) := hwatch h₄ List.mem_cons_self
  have h₆ : Run (g (v true l₄ (.closing (.closed true))) .queued t₂) :=
    hwatch h₅ List.mem_cons_self
  have h₇ : Run (g (v true l₄ .finished) .queued t₂) := hwatch h₆ List.mem_cons_self
  have h₈ : Run (g (v true l₄ .finished) (.accepted none) t₂) :=
    h₇.step (.call (l := l₄) rfl List.mem_cons_self)
  obtain ⟨hunblocked, hdied⟩ := dying_agent_unblocks h₈
  obtain ⟨g₁, hs⟩ := hunblocked .video _ _ rfl rfl rfl rfl
  exact ⟨_, g₁, h₈, rfl, ⟨_, rfl, rfl⟩, hs, (hdied .video g₁ rfl hs).2.1⟩

end Session

end DeviceLink
