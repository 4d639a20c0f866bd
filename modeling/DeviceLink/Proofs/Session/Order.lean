import DeviceLink.Proofs.Session.Courses
/-!
# Sessions — the order of a course

Wherever its owner is, the phase of a session says what it has: it runs while a
connect is under way, an idle session shares nothing with a watcher, and one that
is over holds no channels and has no watcher any more. `Orderly` says so with
what a stop has done already, and every step keeps it. What is taken down is over
when its owner comes back (`Ending.isOver`).
-/

namespace DeviceLink

namespace Session

/-- The phase of a session while its owner is in a call. -/
def Owner.phase? : Owner → Option Phase
  | .free _ => none
  | .calling .stopping _ => some .stopping
  | .calling _ _ => some .started
  | .releasing => some .stopping
  | .deactivating => some .stopping
  | .awaiting => some .stopping
  | .joining => some .stopping
  | .ending => some .stopping

namespace Place

/-- The phase of a session while its owner is in a call. -/
def phase? : Place → Option Phase
  | .within o => o.phase?
  | .leaving => none
  | .parting => none
  | _ => some .started

/-- Whether the channels were closed on the way to this place. -/
def isBare : Place → Bool
  | .within .deactivating => true
  | .within .awaiting => true
  | .within .joining => true
  | .within .ending => true
  | _ => false

/-- Whether there is no watcher any more. -/
def isAlone : Place → Bool
  | .within .ending => true
  | .parting => true
  | _ => false

theorem phase?_eq {p : Place} {q : Phase} (h : p.phase? = some q) :
    q = .started ∨ q = .stopping := by
  cases p with
  | within o =>
      cases o with
      | free _ => cases h
      | calling e c => cases e <;> cases h <;> simp
      | _ => cases h; exact .inr rfl
  | leaving | parting => cases h
  | _ => cases h; exact .inl rfl

end Place

/-- Whether the session was stopped or given up. -/
def isOver (s : Session) : Bool := s.phase == .stopped || s.phase == .destroyed

/-- The connections a session holds. -/
def held (s : Session) : List Stream := s.video.toList ++ s.control.toList

variable {σ : Type} {S : Surroundings σ}

/-- **What a session has, wherever its owner is.** -/
structure Orderly (g : Stage σ) : Prop where
  during : ∀ q, g.place.phase? = some q → g.session.phase = q
  between : g.place.phase? = none → g.session.phase ≠ .stopping
  idle : g.session.phase = .idle →
    g.session.vigil.listener = none ∧ g.session.vigil.watcher = none
  /-- The channels were closed. -/
  bare : g.session.isOver = true ∨ g.place.isBare = true → g.session.held = []
  /-- The watcher is over and forgotten. -/
  alone : g.session.isOver = true ∨ g.place.isAlone = true → g.session.vigil.watcher = none

theorem orderly_new (last : Except (Halt SessionError) Unit) (x : σ × Trace)
    (handed : List Stream) : Orderly (⟨{}, .free last, x, handed⟩ : Stage σ) :=
  ⟨fun _ h => (nomatch h), fun _ h => (nomatch h), fun _ => ⟨rfl, rfl⟩, fun _ => rfl, fun _ => rfl⟩

/-- In a call the phase says all but what a stop has done. -/
theorem Orderly.of_phase {g : Stage σ} {q : Phase} (hp : g.place.phase? = some q)
    (hq : g.session.phase = q) (hbare : g.place.isBare = true → g.session.held = [])
    (halone : g.place.isAlone = true → g.session.vigil.watcher = none) : Orderly g := by
  have hover : g.session.isOver = false := by
    rw [isOver, hq]
    rcases Place.phase?_eq hp with rfl | rfl <;> rfl
  refine ⟨fun q' hq' => ?_, fun hn => ?_, fun hi => ?_, fun h => ?_, fun h => ?_⟩
  · rw [hp] at hq'; cases hq'; exact hq
  · rw [hp] at hn; cases hn
  · rw [hq] at hi; rcases Place.phase?_eq hp with rfl | rfl <;> cases hi
  · rw [hover] at h; exact hbare (h.resolve_left Bool.false_ne_true)
  · rw [hover] at h; exact halone (h.resolve_left Bool.false_ne_true)

/-- The same before the channels are closed. -/
theorem Orderly.of_early {g : Stage σ} {q : Phase} (hp : g.place.phase? = some q)
    (hq : g.session.phase = q) (hearly : g.place.isBare = false ∧ g.place.isAlone = false) :
    Orderly g :=
  .of_phase hp hq (fun hb => by rw [hearly.1] at hb; cases hb)
    fun ha => by rw [hearly.2] at ha; cases ha

/-- A session that runs, between two calls. -/
theorem Orderly.of_running {s : Session} {last : Except (Halt SessionError) Unit} {x : σ × Trace}
    {handed : List Stream} (hp : s.phase = .started ∨ s.phase = .connected) :
    Orderly (⟨s, .free last, x, handed⟩ : Stage σ) := by
  have hover : s.isOver = false := by
    rw [isOver]
    rcases hp with hp | hp <;> rw [hp] <;> rfl
  refine ⟨fun _ h => (nomatch h), fun _ h => ?_, fun h => ?_, fun h => ?_, fun h => ?_⟩
  · rcases hp with hp | hp <;> rw [hp] at h <;> cases h
  · rcases hp with hp | hp <;> rw [hp] at h <;> cases h
  · rw [hover] at h; rcases h with h | h <;> cases h
  · rw [hover] at h; rcases h with h | h <;> cases h

/-- A session that a call leaves as it was. -/
theorem Orderly.unchanged {s : Session} {last last' : Except (Halt SessionError) Unit}
    {x x' : σ × Trace} {handed handed' : List Stream}
    (h : Orderly (⟨s, .free last, x, handed⟩ : Stage σ)) :
    Orderly (⟨s, .free last', x', handed'⟩ : Stage σ) :=
  ⟨h.during, h.between, h.idle, h.bare, h.alone⟩

theorem Orderly.start {s s' : Session} {last r : Except (Halt SessionError) Unit}
    {x x' : σ × Trace} {artifact : String} {serial : Option String} {p : Params}
    {handed : List Stream} (h : Orderly (⟨s, .free last, x, handed⟩ : Stage σ))
    (hr : Session.start S.traced artifact serial p (s, x) = (r, s', x')) :
    Orderly (⟨s', .free r, x', handed⟩ : Stage σ) := by
  by_cases hs : s.phase = .idle
  · obtain ⟨w, t⟩ := x
    obtain ⟨es, w', v, -, heq⟩ := start_starts S artifact serial p hs w t
    rw [heq] at hr
    rcases v with e | a
    · cases hr
      exact ⟨fun _ h => (nomatch h), fun _ h => (nomatch h), fun _ => h.idle hs,
        fun h => (by rcases h with h | h <;> cases h),
        fun h => (by rcases h with h | h <;> cases h)⟩
    · cases hr
      exact .of_running (.inl rfl)
  · rw [start_refused S.traced _ _ _ hs] at hr
    cases hr
    exact h.unchanged

/-- **Every step of an owner with a reverse tunnel** keeps the order. -/
theorem Orderly.own {s s' : Session} {o o' : Owner} {x x' : σ × Trace} {handed : List Stream}
    (h : Orderly (⟨s, .within o, x, handed⟩ : Stage σ))
    (hs : Step S .owner ⟨s, o, x⟩ ⟨s', o', x'⟩) :
    Orderly (⟨s', .within o', x', handed⟩ : Stage σ) := by
  cases hs with
  | start hr _ => exact h.start hr
  | connect hp _ => exact .of_early rfl hp ⟨rfl, rfl⟩
  | unheard _ _ | refused _ | unstopped _ _ => exact h.unchanged
  | @call _ _ _ e _ _ _ _ _ _ =>
      cases e <;> exact .of_early rfl (h.during _ rfl) ⟨rfl, rfl⟩
  | video hr =>
      obtain ⟨rfl, -⟩ := setVideo_gives hr
      exact .of_early rfl (h.during _ rfl) ⟨rfl, rfl⟩
  | control hr =>
      obtain ⟨rfl, -⟩ := setControl_gives hr
      exact .of_early rfl (h.during _ rfl) ⟨rfl, rfl⟩
  | @died _ _ e _ he _ =>
      cases e with
      | video | control => exact .of_running (.inl (h.during _ rfl))
      | connected | stopping => cases he
  | connected => exact .of_running (.inr rfl)
  | stop _ => split <;> exact .of_early rfl rfl ⟨rfl, rfl⟩
  | closed => exact .of_early rfl (h.during _ rfl) ⟨rfl, rfl⟩
  | release hr =>
      obtain ⟨rfl, -⟩ := closeChannels_gives hr
      exact .of_phase rfl (h.during _ rfl) (fun _ => rfl) fun ha => (nomatch ha)
  | deactivate hr =>
      obtain ⟨rfl, -⟩ := deactivate_gives hr
      split
      · exact .of_phase rfl (h.during _ rfl) (fun _ => h.bare (.inr rfl)) fun ha => (nomatch ha)
      · next hx =>
        exact .of_phase rfl (h.during _ rfl) (fun _ => h.bare (.inr rfl))
          fun _ => Option.not_isSome_iff_eq_none.1 hx
  | told _ | expired _ =>
      exact .of_phase rfl (h.during _ rfl) (fun _ => h.bare (.inr rfl)) fun ha => (nomatch ha)
  | joined _ => exact .of_phase rfl (h.during _ rfl) (fun _ => h.bare (.inr rfl)) fun _ => rfl
  | stopped =>
      exact ⟨fun _ h => (nomatch h), fun _ h => (nomatch h), fun h => (nomatch h),
        fun _ => h.bare (.inr rfl), fun _ => h.alone (.inr rfl)⟩

/-- A step in search of an agent leaves the search going, or the call is over. -/
theorem Seek.phase? {p p' : Place} {x x' : σ × Trace} (h : Seek S p x p' x') :
    p.phase? = some .started ∧
      ((p'.phase? = some .started ∧ p'.isBare = false ∧ p'.isAlone = false) ∨
        ∃ last, p' = .free last) := by
  cases h with
  | exhausted | undialed _ => exact ⟨rfl, .inr ⟨_, rfl⟩⟩
  | _ => exact ⟨rfl, .inl ⟨rfl, rfl, rfl⟩⟩

/-- A session begins to be given up: there may be no watcher to wait for. -/
theorem Orderly.leave {s : Session} {last : Except (Halt SessionError) Unit} {x : σ × Trace}
    {handed : List Stream} (h : Orderly (⟨s, .free last, x, handed⟩ : Stage σ)) :
    Orderly (⟨{ s with vigil := s.vigil.askKill },
      if s.vigil.watcher.isSome then .leaving else .parting, x, handed⟩ : Stage σ) := by
  -- A watcher that is not there is not asked.
  have halone : s.vigil.watcher = none → s.vigil.askKill.watcher = none := fun hx =>
    congrArg (Option.map _) hx
  have hidle : s.phase = .idle → s.vigil.askKill.listener = none ∧
      s.vigil.askKill.watcher = none := fun hi => ⟨(h.idle hi).1, halone (h.idle hi).2⟩
  have hover : s.isOver = true → s.held = [] ∧ s.vigil.watcher = none := fun ho =>
    ⟨h.bare (.inl ho), h.alone (.inl ho)⟩
  have hbetween := h.between rfl
  split
  · exact ⟨fun _ h => (nomatch h), fun _ => hbetween, hidle,
      fun ho => (hover (ho.resolve_right Bool.false_ne_true)).1,
      fun ho => halone (hover (ho.resolve_right Bool.false_ne_true)).2⟩
  · next hx =>
    exact ⟨fun _ h => (nomatch h), fun _ => hbetween, hidle,
      fun ho => (hover (ho.resolve_right Bool.false_ne_true)).1,
      fun _ => halone (Option.not_isSome_iff_eq_none.1 hx)⟩

/-- **Every step keeps the order.** -/
theorem Orderly.step {g g' : Stage σ} (h : Orderly g) {who : Party} (hs : Progress S who g g') :
    Orderly g' := by
  cases hs with
  | own hs => exact h.own hs
  | start hr => exact h.start hr
  | connect hp _ => exact .of_early rfl hp ⟨rfl, rfl⟩
  | pathless _ _ _ => exact h.unchanged
  | seek hs =>
      obtain ⟨hp, ⟨hp', hearly⟩ | ⟨last, rfl⟩⟩ := hs.phase?
      · exact .of_early hp' (h.during _ hp) hearly
      · exact .of_running (.inl (h.during _ hp))
  | video hr =>
      obtain ⟨rfl, -⟩ := setVideo_gives hr
      exact .of_early rfl (h.during _ rfl) ⟨rfl, rfl⟩
  | control hr =>
      obtain ⟨rfl, -⟩ := setControl_gives hr
      exact .of_early rfl (h.during _ rfl) ⟨rfl, rfl⟩
  | connected _ | unmapped _ _ _ => exact .of_running (.inr rfl)
  | @take s _ x _ _ _ _ hr =>
      rcases takeChannels_gives s x with heq | ⟨a, b, -, -, heq⟩
      · cases heq.symm.trans hr
        exact h.unchanged
      · cases heq.symm.trans hr
        exact ⟨fun _ h => (nomatch h), h.between, h.idle, fun _ => rfl, h.alone⟩
  | leave => exact h.leave
  | left _ =>
      exact ⟨fun _ h => (nomatch h), h.between, fun hi => ⟨(h.idle hi).1, rfl⟩,
        fun ho => h.bare (.inl (ho.resolve_right Bool.false_ne_true)), fun _ => rfl⟩
  | part hr =>
      obtain ⟨rfl, -⟩ := closeChannels_gives hr
      exact ⟨fun _ h => (nomatch h), fun _ h => (nomatch h), fun h => (nomatch h), fun _ => rfl,
        fun _ => h.alone (.inr rfl)⟩
  | @watch s p x _ _ _ hm =>
      -- There is a watcher, so the session is neither idle nor over.
      obtain ⟨y, hy, -⟩ := Vigil.moves_does hm
      refine ⟨h.during, h.between, fun hi => ?_, h.bare, fun ho => ?_⟩
      · rw [(h.idle hi).2] at hy; cases hy
      · rw [h.alone ho] at hy; cases hy
  | elapse _ _ => exact ⟨h.during, h.between, h.idle, h.bare, h.alone⟩

theorem Orderly.course {g g' : Stage σ} (h : Orderly g) (hc : Course S g g') : Orderly g' := by
  induction hc with
  | refl => exact h
  | tail _ hs ih =>
      obtain ⟨who, hs⟩ := hs
      exact ih.step hs

/-! ## Taking a session down -/

/-- The session is being stopped or given up, or it was. -/
def Ending (g : Stage σ) : Prop :=
  (g.session.phase = .stopping ∨ g.session.isOver = true) ∨
    g.place = .leaving ∨ g.place = .parting

/-- A session whose phase stays the same goes on to end. -/
theorem Ending.of_phase {g g' : Stage σ} (h : Ending g) (hp : g'.session.phase = g.session.phase)
    (hplace : g.place ≠ .leaving ∧ g.place ≠ .parting) : Ending g' := by
  rcases h with h | h | h
  · rw [Ending, isOver, hp]
    exact .inl h
  · exact absurd h hplace.1
  · exact absurd h hplace.2

/-- A session that runs is not ending. -/
theorem Ending.not_running {g : Stage σ} (h : Ending g) (hp : g.session.phase = .started)
    (hplace : g.place ≠ .leaving ∧ g.place ≠ .parting) : False := by
  rcases h with (h | h) | h | h
  · rw [hp] at h; cases h
  · rw [isOver, hp] at h; cases h
  · exact hplace.1 h
  · exact hplace.2 h

/-- A start is refused. -/
theorem Ending.start {s s' : Session} {last r : Except (Halt SessionError) Unit}
    {x x' : σ × Trace} {artifact : String} {serial : Option String} {p : Params}
    {handed : List Stream} (h : Ending (⟨s, .free last, x, handed⟩ : Stage σ))
    (hr : Session.start S.traced artifact serial p (s, x) = (r, s', x')) :
    Ending (⟨s', .free r, x', handed⟩ : Stage σ) := by
  have hidle : s.phase ≠ .idle := fun hi => by
    rcases h with (h | h) | h | h
    · cases hi.symm.trans h
    · rw [isOver, show s.phase = .idle from hi] at h; cases h
    · cases h
    · cases h
  rw [start_refused S.traced _ _ _ hidle] at hr
  cases hr
  exact h.of_phase rfl ⟨by simp, by simp⟩

theorem Ending.own {s s' : Session} {o o' : Owner} {x x' : σ × Trace} {handed : List Stream}
    (h : Ending (⟨s, .within o, x, handed⟩ : Stage σ))
    (ho : Orderly (⟨s, .within o, x, handed⟩ : Stage σ))
    (hs : Step S .owner ⟨s, o, x⟩ ⟨s', o', x'⟩) :
    Ending (⟨s', .within o', x', handed⟩ : Stage σ) := by
  have hplace : Place.within o ≠ .leaving ∧ Place.within o ≠ .parting := ⟨by simp, by simp⟩
  cases hs with
  | start hr _ => exact h.start hr
  | connect _ _ | unheard _ _ | refused _ | unstopped _ _ | call _ _ | died _ _ | closed | told _
  | expired _ | joined _ => exact h.of_phase rfl hplace
  | video _ | control _ | connected => exact (h.not_running (ho.during _ rfl) hplace).elim
  | stop _ => exact .inl (.inl rfl)
  | release hr =>
      obtain ⟨rfl, -⟩ := closeChannels_gives hr
      exact h.of_phase rfl hplace
  | deactivate hr =>
      obtain ⟨rfl, -⟩ := deactivate_gives hr
      exact h.of_phase rfl hplace
  | stopped => exact .inl (.inr rfl)

/-- **What has begun to end goes on to.** -/
theorem Ending.step {g g' : Stage σ} (h : Ending g) (ho : Orderly g) {who : Party}
    (hs : Progress S who g g') : Ending g' := by
  cases hs with
  | own hs => exact h.own ho hs
  | start hr => exact h.start hr
  | connect _ _ | pathless _ _ _ => exact h.of_phase rfl ⟨by simp, by simp⟩
  | seek hs =>
      refine h.of_phase rfl ⟨?_, ?_⟩ <;>
      · rintro rfl
        cases hs.phase?.1
  | video _ | control _ | connected _ | unmapped _ _ _ =>
      exact (h.not_running (ho.during _ rfl) ⟨by simp, by simp⟩).elim
  | @take s _ x _ _ _ _ hr =>
      rcases takeChannels_gives s x with heq | ⟨a, b, -, -, heq⟩ <;>
      · cases heq.symm.trans hr
        exact h.of_phase rfl ⟨by simp, by simp⟩
  | leave => exact .inr (by split <;> simp)
  | left _ => exact .inr (.inr rfl)
  | @part s _ x _ _ _ hr => exact .inl (.inr rfl)
  | watch _ | elapse _ _ => exact h

theorem Ending.course {g g' : Stage σ} (h : Ending g) (ho : Orderly g) (hc : Course S g g') :
    Ending g' := by
  induction hc with
  | refl => exact h
  | tail hc hs ih =>
      obtain ⟨who, hs⟩ := hs
      exact ih.step (ho.course hc) hs

/-- **What is taken down is over** when its owner comes back. -/
theorem Ending.isOver {g : Stage σ} (h : Ending g) (ho : Orderly g) (hb : g.IsBetween) :
    g.session.isOver = true := by
  obtain ⟨last, hfree⟩ := hb
  rcases h with (h | h) | h | h
  · exact absurd h (ho.between (by rw [hfree]; rfl))
  · exact h
  · rw [hfree] at h; cases h
  · rw [hfree] at h; cases h

end Session

end DeviceLink
