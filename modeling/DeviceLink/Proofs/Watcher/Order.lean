import DeviceLink.Proofs.Watcher.Moves
/-!
# Watchers — the order of their moves

A watcher tells the termination before it turns to the listener, and all it
does there is to close it; it kills its process only where it was asked to.
`Sound` says the first of a vigil at any time, with who may hold the listener's
lock, and `Calm` the second. Whatever a watcher does, and whatever calls the
owner makes on the listener meanwhile, the vigil is kept (`Keeps`): both hold on,
the listener and the watcher are the ones there were, and no process is killed
that was not asked to be.
-/

namespace DeviceLink

/-- Whether a process was killed. -/
def Event.isKill : Event → Bool
  | .kill _ _ => true
  | _ => false

/-- Whether the event is one on a connection. -/
def Event.isTraffic : Event → Bool
  | .arrival _ _ => true
  | .connect _ _ => true
  | .byte _ _ => true
  | .drained _ _ => true
  | .close _ => true
  | _ => false

namespace Trace

/-- The processes that were killed. -/
def kills (t : Trace) : Trace := t.filter Event.isKill

/-- The events on connections. -/
def traffic (t : Trace) : Trace := t.filter Event.isTraffic

@[simp] theorem kills_nil : kills [] = [] := rfl

@[simp] theorem kills_append (t t' : Trace) : (t ++ t').kills = t.kills ++ t'.kills :=
  List.filter_append ..

@[simp] theorem kills_passed (times : List Nat) : kills (times.map .passed) = [] := by
  simp [kills, Event.isKill]

@[simp] theorem traffic_nil : traffic [] = [] := rfl

@[simp] theorem traffic_append (t t' : Trace) : (t ++ t').traffic = t.traffic ++ t'.traffic :=
  List.filter_append ..

@[simp] theorem traffic_passed (times : List Nat) : traffic (times.map .passed) = [] := by
  simp [traffic, Event.isTraffic]

end Trace

/-- The port a listener was asked to be on, and the one it is on. -/
def Listener.place (l : Listener) : Port × Port := (l.port, l.bound)

/-- How often a watcher may still kill its process. -/
def WatchStage.killsLeft : WatchStage → Nat
  | .watching => 1
  | .killing => 1
  | _ => 0

/-- What a watcher was told: what to watch, whether to close a listener, and
whether to kill. -/
def Watcher.charge (x : Watcher) : RunningAgent × Bool × Bool :=
  (x.process, x.guards, x.killAsked)

/-- What a call on a listener has given, as traffic. -/
def Listener.Call.given (bound : Port) : Call → Trace
  | .accepted (some stream) => [.arrival bound (.ok stream)]
  | .refused cause => [.arrival bound (.error cause)]
  | _ => []

namespace Listener.Call

variable {σ : Type} {id : Nat} {c c' : Call} {l l' : Listener} {y y' : σ × Trace}

theorem Does.place_eq (h : Does id c l y c' l' y') : l'.place = l.place := by
  cases h <;> rfl

/-- **A call kills nothing, and its traffic is what it gives.** A close has
none. -/
theorem Does.events (h : Does id c l y c' l' y') :
    ∃ es : Trace, y'.2 = y.2 ++ es ∧ es.kills = [] ∧
      c'.given l.bound = c.given l.bound ++ es.traffic ∧ (c.isAccept = false → es.traffic = []) := by
  cases h with
  | take _ | refuse _ => exact ⟨_, rfl, rfl, rfl, fun hc => by cases hc⟩
  | drop => exact ⟨_, rfl, rfl, rfl, fun _ => rfl⟩
  | _ => exact ⟨[], (List.append_nil _).symm, rfl, rfl, fun _ => rfl⟩

end Listener.Call

namespace Vigil

/-- The watcher was not asked to kill its process, and does not. -/
def Calm (x : Watcher) : Prop := x.killAsked = false ∧ x.stage ≠ .killing ∧ x.stage ≠ .reaping

/-- The watcher has turned to the listener. -/
def Closing (x : Watcher) : Prop := x.stage = .finished ∨ ∃ c, x.stage = .closing c

variable {σ : Type} {v v' : Vigil} {x : Watcher} {y y' : σ × Trace}

/-- What was told stays told. -/
theorem Does.terminated (hm : Does v x y v' y') (h : v.terminated = true) :
    v'.terminated = true := by
  cases hm <;> first | exact h | rfl

/-- A watcher that is not asked to kill its process stays so, and kills
nothing. -/
theorem Does.calm (hm : Does v x y v' y') (h : Calm x) :
    (∀ x', v'.watcher = some x' → Calm x') ∧
      y'.2.filter Event.isKill = y.2.filter Event.isKill := by
  cases hm with
  | reap _ =>
      refine ⟨fun x' hx => ?_, ?_⟩
      · cases hx; exact ⟨h.1, by simp, by simp⟩
      · rw [List.filter_append]; exact List.append_nil _
  | ask _ hk => rw [h.1] at hk; cases hk
  | kill hs => exact absurd hs h.2.1
  | tell _ =>
      refine ⟨fun x' hx => ?_, rfl⟩
      cases hx
      exact ⟨h.1, by dsimp only; split <;> simp, by dsimp only; split <;> simp⟩
  | call _ _ hm =>
      refine ⟨fun x' hx => ?_, ?_⟩
      · cases hx; exact ⟨h.1, by simp, by simp⟩
      · cases hm with
        | take _ | refuse _ | drop => rw [List.filter_append]; exact List.append_nil _
        | _ => rfl
  | finish _ _ =>
      refine ⟨fun x' hx => ?_, rfl⟩
      cases hx
      exact ⟨h.1, by simp, by simp⟩

/-- Nothing was asked of the watcher, and nothing is told while it watches. -/
def IsCalm (v : Vigil) : Prop :=
  ∀ x, v.watcher = some x → Calm x ∧ (x.stage = .watching → v.terminated = false)

/-- How often the process may still be killed. -/
def killsLeft (v : Vigil) : Nat := (v.watcher.map fun x => x.stage.killsLeft).getD 0

theorem killsLeft_eq (hx : v.watcher = some x) : v.killsLeft = x.stage.killsLeft := by
  rw [killsLeft, hx]
  rfl

/-- A watcher never watches again once it has moved. -/
theorem Does.stage_ne (hm : Does v x y v' y') {x' : Watcher} (hx' : v'.watcher = some x') :
    x'.stage ≠ .watching := by
  cases hm with
  | tell _ => cases hx'; dsimp only; split <;> simp
  | _ => cases hx'; simp

/-- **Every move that kills uses up a kill.** -/
theorem Does.killsLeft (hm : Does v x y v' y') (hx : v.watcher = some x) :
    ∃ es, y'.2 = y.2 ++ es ∧ es.kills.length + v'.killsLeft ≤ v.killsLeft := by
  rw [killsLeft_eq hx]
  have hkept : ∀ {es : Trace}, y'.2 = y.2 ++ es →
      es.kills.length + v'.killsLeft = x.stage.killsLeft →
      ∃ es, y'.2 = y.2 ++ es ∧ es.kills.length + v'.killsLeft ≤ x.stage.killsLeft :=
    fun hes heq => ⟨_, hes, Nat.le_of_eq heq⟩
  cases hm with
  -- A process that ends by itself while it is watched will not be killed.
  | reap hs => exact ⟨_, rfl, Nat.zero_le _⟩
  | kill hs => exact hkept rfl (by rw [hs]; rfl)
  | ask hs _ | finish hs _ => exact hkept (List.append_nil _).symm (by rw [hs]; rfl)
  | tell hs =>
      have hnone : (if x.guards then WatchStage.closing .closing else .finished).killsLeft = 0 := by
        split <;> rfl
      exact hkept (List.append_nil _).symm (by rw [killsLeft_eq rfl, hs, hnone]; rfl)
  | call hs _ hc =>
      obtain ⟨es, hes, hkills, -⟩ := hc.events
      exact hkept hes (by rw [killsLeft_eq rfl, hs, hkills]; rfl)

/-- **The vigil is in order.** -/
structure Sound (v : Vigil) : Prop where
  /-- All a watcher does with the listener is to close it. -/
  closes : ∀ x c, v.watcher = some x → x.stage = .closing c → c.isAccept = false
  /-- It has told the termination before. -/
  told : ∀ x, v.watcher = some x → Closing x → v.terminated = true
  /-- The lock is held by the owner, or by a watcher about to drop the listener. -/
  held : ∀ l id, v.listener = some l → l.holder = some id →
    id = ownerId ∨ id = watcherId ∧ ∃ x, v.watcher = some x ∧ x.stage = .closing .dropping

/-- A vigil is in order where nothing has happened yet. -/
theorem Sound.of_new (hl : ∀ l, v.listener = some l → l.holder = none)
    (hx : ∀ x, v.watcher = some x → x.stage = .watching) : Sound v := by
  refine ⟨fun x c hw hc => ?_, fun x hw hc => ?_, fun l id hlis hid => ?_⟩
  · rw [hx x hw] at hc; cases hc
  · rcases hc with hc | ⟨c, hc⟩ <;> rw [hx x hw] at hc <;> cases hc
  · rw [hl l hlis] at hid; cases hid

/-- A watcher at another stage is in order where it has told before it closes
and the lock is not its own. -/
theorem Sound.withStage (h : Sound v) (hx : v.watcher = some x) {stage : WatchStage}
    (hclose : ∀ c, stage = .closing c → c.isAccept = false)
    (htold : stage = .finished ∨ (∃ c, stage = .closing c) → v.terminated = true)
    (hd : v.listener.isSome = true → x.stage ≠ .closing .dropping) :
    Sound (v.withStage x stage) := by
  refine ⟨fun x' c hx' hc => ?_, fun x' hx' hc => ?_, fun l id hl hid => ?_⟩
  · cases hx'; exact hclose c hc
  · cases hx'; exact htold hc
  · rcases h.held l id hl hid with hid' | ⟨-, x', hx', hs⟩
    · exact .inl hid'
    · rw [hx] at hx'
      cases hx'
      exact absurd hs (hd (by rw [show v.listener = some l from hl]; rfl))

/-- The watcher's own call on the listener keeps the order. -/
theorem Sound.call (h : Sound v) (hx : v.watcher = some x) {l l' : Listener}
    {c c' : Listener.Call} (hs : x.stage = .closing c) (hl : v.listener = some l)
    (hc : Listener.Call.Does watcherId c l y c' l' y') :
    Sound ({ v with listener := some l' }.withStage x (.closing c')) := by
  have hclose : c.isAccept = false := h.closes x c hx hs
  refine ⟨fun x' d hx' hd => ?_, fun x' hx' _ => ?_, fun k id hk hid => ?_⟩
  · cases hx'; cases hd; exact hc.isAccept_eq.trans hclose
  · cases hx'; exact h.told x hx (.inr ⟨c, hs⟩)
  · cases hk
    -- Before the lock it cannot have been the watcher's.
    have howner : c ≠ .dropping → l.holder = some id → id = ownerId := by
      intro hne hid
      rcases h.held l id hl hid with hid | ⟨-, x', hx', hs'⟩
      · exact hid
      · rw [hx] at hx'
        cases hx'
        rw [hs] at hs'
        cases hs'
        exact absurd rfl hne
    cases hc with
    | lose _ | pass _ | shut => exact .inl (howner (by simp) hid)
    | hold _ => cases hid; exact .inr ⟨rfl, _, rfl, rfl⟩
    | drop => cases hid
    | giveUp _ | lock _ | wake _ | take _ | refuse _ => cases hclose

/-- A call that the owner makes keeps it as well. -/
theorem Sound.advance (h : Sound v) {l l' : Listener} {c c' : Listener.Call}
    (hl : v.listener = some l) (hc : Listener.Call.Does ownerId c l y c' l' y') :
    Sound { v with listener := some l' } := by
  refine ⟨h.closes, h.told, fun k id hk hid => ?_⟩
  cases hk
  cases hc with
  | lock _ | hold _ => cases hid; exact .inl rfl
  | wake _ | take _ | refuse _ | drop => cases hid
  | giveUp _ | lose _ | pass _ | shut => exact h.held l id hl hid

/-- Every move of the watcher keeps the order. -/
theorem Sound.watch (h : Sound v) (hx : v.watcher = some x) (hm : Does v x y v' y') :
    Sound v' := by
  cases hm with
  | reap hs =>
      refine h.withStage hx (fun c hc => by cases hc) (fun hc => ?_) fun _ hd => ?_
      · rcases hc with hc | ⟨c, hc⟩ <;> cases hc
      · rw [hd] at hs
        rcases hs with hs | hs <;> cases hs
  | ask hs _ =>
      refine h.withStage hx (fun c hc => by cases hc) (fun hc => ?_) fun _ hd => ?_
      · rcases hc with hc | ⟨c, hc⟩ <;> cases hc
      · rw [hd] at hs
        cases hs
  | kill hs =>
      refine h.withStage hx (fun c hc => by cases hc) (fun hc => ?_) fun _ hd => ?_
      · rcases hc with hc | ⟨c, hc⟩ <;> cases hc
      · rw [hd] at hs
        cases hs
  | tell hs =>
      have htold : Sound { v with terminated := true } := ⟨h.closes, fun _ _ _ => rfl, h.held⟩
      refine htold.withStage hx (fun c hc => ?_) (fun _ => rfl) fun _ hd => ?_
      · split at hc <;> cases hc
        rfl
      · rw [hd] at hs
        cases hs
  | call hs hl hc => exact h.call hx hs hl hc
  | finish hs hover =>
      refine h.withStage hx (fun c hc => by cases hc) (fun _ => h.told x hx (.inr ⟨_, hs⟩))
        fun hl hd => ?_
      have hover := hover hl
      rw [hd] at hs
      cases hs
      cases hover

/-! ## What is kept -/

/-- **A vigil is kept while some events happen.** -/
structure Keeps (v v' : Vigil) (es : Trace) : Prop where
  /-- The listener is the one there was, and so is the watcher. -/
  listener : v'.listener.map Listener.place = v.listener.map Listener.place
  watcher : v'.watcher.map Watcher.charge = v.watcher.map Watcher.charge
  terminated : v.terminated = true → v'.terminated = true
  sound : Sound v → Sound v'
  /-- A watcher that is not asked to kill its process does not. -/
  calm : IsCalm v → IsCalm v' ∧ es.kills = []
  /-- It does not kill it more often than it may. -/
  kills : es.kills.length + v'.killsLeft ≤ v.killsLeft

theorem Keeps.refl (v : Vigil) : Keeps v v [] :=
  ⟨rfl, rfl, id, id, fun h => ⟨h, rfl⟩, Nat.le_of_eq (Nat.zero_add _)⟩

theorem Keeps.trans {v₁ v₂ : Vigil} {es es' : Trace} (h : Keeps v v₁ es) (h' : Keeps v₁ v₂ es') :
    Keeps v v₂ (es ++ es') := by
  refine ⟨h'.listener.trans h.listener, h'.watcher.trans h.watcher,
    fun ht => h'.terminated (h.terminated ht), fun hs => h'.sound (h.sound hs), fun hc => ?_, ?_⟩
  · obtain ⟨hcalm, hkills⟩ := h.calm hc
    obtain ⟨hcalm', hkills'⟩ := h'.calm hcalm
    exact ⟨hcalm', by rw [Trace.kills_append, hkills, hkills']; rfl⟩
  · have hkills := h.kills
    have hkills' := h'.kills
    rw [Trace.kills_append, List.length_append]
    omega

/-- What happens beside the vigil keeps it, if no process is killed. -/
theorem Keeps.of_kills {es : Trace} (h : es.kills = []) (v : Vigil) : Keeps v v es :=
  ⟨rfl, rfl, id, id, fun hc => ⟨hc, h⟩, by rw [h]; exact Nat.le_of_eq (Nat.zero_add _)⟩

theorem Keeps.isSome_listener {es : Trace} (h : Keeps v v' es) :
    v'.listener.isSome = v.listener.isSome := by
  have hsome := congrArg Option.isSome h.listener
  rwa [Option.isSome_map, Option.isSome_map] at hsome

theorem Keeps.isSome_watcher {es : Trace} (h : Keeps v v' es) :
    v'.watcher.isSome = v.watcher.isSome := by
  have hsome := congrArg Option.isSome h.watcher
  rwa [Option.isSome_map, Option.isSome_map] at hsome

/-- **Every move of the watcher** keeps the vigil, without any traffic. -/
theorem Does.keeps (h : Does v x y v' y') (hx : v.watcher = some x) (hv : Sound v) :
    ∃ es, y'.2 = y.2 ++ es ∧ Keeps v v' es ∧ es.traffic = [] := by
  have hwatcher : v'.watcher.map Watcher.charge = v.watcher.map Watcher.charge := by
    rw [hx]
    cases h <;> rfl
  obtain ⟨es, hes, hle⟩ := h.killsLeft hx
  -- What is left of a move is its traffic, and the place of the listener.
  have hkeeps : es.traffic = [] → v'.listener.map Listener.place = v.listener.map Listener.place →
      ∃ es, y'.2 = y.2 ++ es ∧ Keeps v v' es ∧ es.traffic = [] := by
    intro ht hl
    refine ⟨es, hes, ⟨hl, hwatcher, h.terminated, fun hs => hs.watch hx h, fun hc => ?_, hle⟩, ht⟩
    obtain ⟨hcalm, hkills⟩ := h.calm (hc x hx).1
    rw [hes, List.filter_append] at hkills
    exact ⟨fun x' hx' => ⟨hcalm x' hx', fun hs => absurd hs (h.stage_ne hx')⟩,
      List.append_right_eq_self.1 hkills⟩
  cases h with
  | reap _ | kill _ =>
      exact hkeeps (by rw [← List.append_cancel_left hes]; rfl) rfl
  | ask _ _ | tell _ | finish _ _ =>
      exact hkeeps (by rw [List.append_right_eq_self.1 hes.symm]; rfl) rfl
  | call hs hl hc =>
      obtain ⟨es', hes', -, -, htraffic⟩ := hc.events
      refine hkeeps ?_ ?_
      · rw [← List.append_cancel_left (hes'.symm.trans hes)]
        exact htraffic (hv.closes x _ hx hs)
      · rw [hl]
        exact congrArg some hc.place_eq

/-- **Every move of the owner's call** keeps it too. -/
theorem keeps_advance {l l' : Listener} {c c' : Listener.Call} (hl : v.listener = some l)
    (h : Listener.Call.Does ownerId c l y c' l' y') :
    ∃ es, y'.2 = y.2 ++ es ∧ Keeps v { v with listener := some l' } es ∧
      c'.given l.bound = c.given l.bound ++ es.traffic := by
  obtain ⟨es, hes, hkills, hgiven, -⟩ := h.events
  refine ⟨es, hes, ⟨by rw [hl]; exact congrArg some h.place_eq, rfl, fun ht => ht,
    fun hs => hs.advance hl h, fun hc => ⟨hc, hkills⟩, ?_⟩, hgiven⟩
  rw [hkills]
  exact Nat.le_of_eq (Nat.zero_add _)

end Vigil

end DeviceLink
