import DeviceLink.Proofs.Surroundings.Sockets
import DeviceLink.Proofs.Watcher.Moves
/-!
# Watchers — the listener is dropped in the end

A close that loses the gate comes back before the listener is dropped: whoever
won it does that, and may still be on the way. `Tended` counts the closes on
their way, the owner's and the watcher's: there is one while the gate is passed
and the listener is still there, and none otherwise. A watcher that guards the
listener is not over before the gate is passed, so once it is over and the owner
makes no call the listener is gone, whichever of them won (`Tended.joined`).
-/

namespace DeviceLink

namespace Listener

/-- The ports that are listened on. -/
def ports (l : Listener) : List Port := if l.dropped then [] else [l.bound]

/-- Whether a close has passed the gate and the listener is still there. -/
def isClosing (l : Listener) : Bool := l.gate && !l.dropped

namespace Call

/-- Whether the call is a close that is going to drop the listener. -/
def isPending : Call → Bool
  | .shutting => true
  | .waiting => true
  | .dropping => true
  | _ => false

/-- The connection that was accepted. -/
def taken : Call → List Stream
  | .accepted (some stream) => [stream]
  | _ => []

variable {σ : Type} {id : Nat} {c c' : Call} {l l' : Listener} {y y' : σ × Trace}

/-- **What a move does to sockets**: an accept takes a connection, and the
close that drops the listener gives its port up. -/
theorem Does.sockets (h : Does id c l y c' l' y') (hc : c.isPending = true → l.isClosing = true) :
    ∃ es : Trace, y'.2 = y.2 ++ es ∧ es.closed = [] ∧ c.taken ++ es.opened = c'.taken ∧
      l.ports ++ es.bound = es.freed ++ l'.ports := by
  cases h with
  | take _ | refuse _ => exact ⟨_, rfl, rfl, rfl, List.append_nil _⟩
  | drop =>
      have hdropped : l.dropped = false := by
        have hclosing := hc rfl
        simp only [isClosing, Bool.and_eq_true, Bool.not_eq_true'] at hclosing
        exact hclosing.2
      refine ⟨_, rfl, rfl, rfl, ?_⟩
      rw [ports, hdropped]
      rfl
  | _ => exact ⟨[], (List.append_nil _).symm, rfl, rfl, List.append_nil _⟩

/-- **A close that passes the gate is on its way** until it drops the
listener. -/
theorem Does.pending (h : Does id c l y c' l' y') (hl : l.dropped = true → l.gate = true)
    (hc : c.isPending = true → l.isClosing = true) :
    c'.isPending.toNat + l.isClosing.toNat = c.isPending.toNat + l'.isClosing.toNat ∧
      (l'.dropped = true → l'.gate = true) := by
  cases h with
  | pass hg =>
      have hd : l.dropped = false := Bool.eq_false_iff.2 fun hd => by
        rw [hl hd] at hg
        cases hg
      exact ⟨by simp [isPending, isClosing, hg, hd], fun _ => rfl⟩
  | drop =>
      have hclosing := hc rfl
      refine ⟨by rw [hclosing]; simp [isPending, isClosing], fun _ => ?_⟩
      simp only [isClosing, Bool.and_eq_true] at hclosing
      exact hclosing.1
  | _ => exact ⟨rfl, hl⟩

/-- A dropped listener stays so. -/
theorem Does.dropped (h : Does id c l y c' l' y') (hd : l.dropped = true) :
    l'.dropped = true := by
  cases h <;> first | exact hd | rfl

/-- The gate stays passed, and so it is once a close is over. -/
theorem Does.gate (h : Does id c l y c' l' y') (hc : c.isPending = true → l.isClosing = true) :
    (l.gate = true → l'.gate = true) ∧
      (c'.isAccept = false → c'.isOver = true → l'.gate = true) := by
  cases h with
  | lose hg => exact ⟨fun hg => hg, fun _ _ => hg⟩
  | pass _ => exact ⟨fun _ => rfl, fun _ _ => rfl⟩
  | drop =>
      have hclosing := hc rfl
      simp only [isClosing, Bool.and_eq_true] at hclosing
      exact ⟨fun hg => hg, fun _ _ => hclosing.1⟩
  | shut | hold _ => exact ⟨fun hg => hg, fun _ ho => (nomatch ho)⟩
  | giveUp _ | lock _ | wake _ | take _ | refuse _ => exact ⟨fun hg => hg, fun ha => (nomatch ha)⟩

end Call

end Listener

/-- How many closes of a watcher are on their way. -/
def WatchStage.pending : WatchStage → Nat
  | .closing c => c.isPending.toNat
  | _ => 0

namespace Vigil

/-- How many closes of the watcher are on their way. -/
def pending (v : Vigil) : Nat := v.watcher.elim 0 (·.stage.pending)

/-- The ports that are listened on. -/
def ports (v : Vigil) : List Port := v.listener.elim [] Listener.ports

/-- The watcher has no more to do with the listener. -/
def Done (x : Watcher) : Prop :=
  (x.stage = .finished ∧ x.guards = true) ∨ ∃ c, x.stage = .closing c ∧ c.isOver = true

/-- **A listener that will be dropped**, while so many closes of the owner are
on their way. -/
structure Tended (v : Vigil) (own : Nat) : Prop where
  /-- It is dropped by a close that passed the gate. -/
  gate : ∀ l, v.listener = some l → l.dropped = true → l.gate = true
  /-- Between the two there is that close, and no other. -/
  pending : ∀ l, v.listener = some l → own + v.pending = l.isClosing.toNat
  /-- All a watcher does with the listener is to close it. -/
  closes : ∀ x c, v.watcher = some x → x.stage = .closing c → c.isAccept = false
  /-- A watcher is not done before the gate is passed. -/
  done : ∀ x l, v.watcher = some x → v.listener = some l → Done x → l.gate = true
  /-- There is a watcher that guards it until it is dropped. -/
  guarded : ∀ l, v.listener = some l → l.dropped = true ∨
    ∃ x, v.watcher = some x ∧ x.guards = true

variable {σ : Type} {v v' : Vigil} {x : Watcher} {own : Nat} {y y' : σ × Trace}

theorem pending_eq (hx : v.watcher = some x) : v.pending = x.stage.pending := by
  rw [pending, hx]
  rfl

/-- What is shared with a watcher that is yet to move. -/
theorem Tended.of_new (hl : ∀ l, v.listener = some l → l.gate = false ∧ l.dropped = false)
    (hx : ∀ x, v.watcher = some x → x.stage = .watching)
    (hguards : v.listener.isSome = true → ∃ x, v.watcher = some x ∧ x.guards = true) :
    Tended v 0 := by
  have hpending : v.pending = 0 := by
    rcases hw : v.watcher with _ | x
    · rw [Vigil.pending, hw]; rfl
    · rw [pending_eq hw, hx x hw]; rfl
  refine ⟨fun l h hd => ?_, fun l h => ?_, fun x c h hs => ?_, fun x l h _ hd => ?_, fun l h => ?_⟩
  · rw [(hl l h).2] at hd; cases hd
  · rw [hpending, Listener.isClosing, (hl l h).1]; rfl
  · rw [hx x h] at hs; cases hs
  · rcases hd with ⟨hs, -⟩ | ⟨c, hs, -⟩ <;> rw [hx x h] at hs <;> cases hs
  · exact .inr (hguards (by rw [h]; rfl))

/-- A watcher at another stage, with as many closes on their way. -/
theorem Tended.withStage (h : Tended v own) (hx : v.watcher = some x) {stage : WatchStage}
    (hpending : v.listener.isSome = true → stage.pending = x.stage.pending)
    (hclose : ∀ c, stage = .closing c → c.isAccept = false)
    (hdone : ∀ l, v.listener = some l → Done { x with stage } → l.gate = true) :
    Tended (v.withStage x stage) own := by
  refine ⟨h.gate, fun l hl => ?_, fun x' c hx' hs => ?_, fun x' l hx' hl hd => ?_, fun l hl => ?_⟩
  · have hold := h.pending l hl
    rw [pending_eq hx, ← hpending (by rw [show v.listener = some l from hl]; rfl)] at hold
    exact hold
  · cases hx'; exact hclose c hs
  · cases hx'; exact hdone l hl hd
  · refine (h.guarded l hl).imp_right fun ⟨x', hx', hg⟩ => ⟨_, rfl, ?_⟩
    rw [hx] at hx'
    cases hx'
    exact hg

/-- A close of the watcher that is on its way is the one that the listener waits
for. -/
theorem Tended.isClosing_of_watcher (h : Tended v own) (hx : v.watcher = some x)
    {c : Listener.Call} (hs : x.stage = .closing c) {l : Listener} (hl : v.listener = some l)
    (hc : c.isPending = true) : l.isClosing = true := by
  have hcount := h.pending l hl
  rw [pending_eq hx, hs, WatchStage.pending, hc] at hcount
  rcases hclosing : l.isClosing with _ | _
  · rw [hclosing] at hcount
    simp at hcount
  · rfl

/-- The same of the owner. -/
theorem Tended.isClosing_of_owner {c : Listener.Call} (h : Tended v c.isPending.toNat)
    {l : Listener} (hl : v.listener = some l) (hc : c.isPending = true) : l.isClosing = true := by
  have hcount := h.pending l hl
  rw [hc] at hcount
  rcases hclosing : l.isClosing with _ | _
  · rw [hclosing] at hcount
    simp at hcount
  · rfl

/-- **A move on the listener**, of the owner's call or the watcher's: the closes
on their way change as the listener does. -/
theorem Tended.call (h : Tended v own) {l l' : Listener} {c c' : Listener.Call} {id own' : Nat}
    {w : Option Watcher} (hl : v.listener = some l)
    (hm : Listener.Call.Does id c l y c' l' y') (hc : c.isPending = true → l.isClosing = true)
    (hw : w.map (·.guards) = v.watcher.map (·.guards))
    (hpending : own' + w.elim 0 (·.stage.pending) + c.isPending.toNat =
      own + v.pending + c'.isPending.toNat)
    (hcloses : ∀ x d, w = some x → x.stage = .closing d → d.isAccept = false)
    (hdone : ∀ x, w = some x → Done x → l'.gate = true) :
    Tended { v with listener := some l', watcher := w } own' := by
  obtain ⟨hcount, hgate⟩ := hm.pending (h.gate l hl) hc
  refine ⟨fun k hk => ?_, fun k hk => ?_, hcloses, fun x k hx hk hd => ?_, fun k hk => ?_⟩
  · cases hk; exact hgate
  · cases hk
    have hold := h.pending l hl
    change own' + w.elim 0 (·.stage.pending) = _
    omega
  · cases hk; exact hdone x hx hd
  · cases hk
    rcases h.guarded l hl with hd | ⟨x, hx, hg⟩
    · exact .inl (hm.dropped hd)
    · rw [hx] at hw
      obtain ⟨x', rfl, hx'⟩ := Option.map_eq_some_iff.1 hw
      exact .inr ⟨x', rfl, hx'.trans hg⟩

/-- **Every move of the watcher** tends the listener. -/
theorem Tended.watch (h : Tended v own) (hx : v.watcher = some x) (hm : Does v x y v' y') :
    Tended v' own := by
  cases hm with
  | reap hs =>
      refine h.withStage hx (fun _ => ?_) (fun c hc => by cases hc) fun l _ hd => ?_
      · rcases hs with hs | hs <;> rw [hs] <;> rfl
      · rcases hd with ⟨hd, -⟩ | ⟨c, hd, -⟩ <;> cases hd
  | ask hs _ | kill hs =>
      refine h.withStage hx (fun _ => by rw [hs]; rfl) (fun c hc => by cases hc) fun l _ hd => ?_
      rcases hd with ⟨hd, -⟩ | ⟨c, hd, -⟩ <;> cases hd
  | tell hs =>
      have htold : Tended { v with terminated := true } own :=
        ⟨h.gate, h.pending, h.closes, h.done, h.guarded⟩
      refine htold.withStage hx (fun _ => ?_) (fun c hc => ?_) fun l _ hd => ?_
      · rw [hs]; split <;> rfl
      · split at hc <;> cases hc
        rfl
      · -- A watcher that guards the listener has its close before it.
        rcases hd with ⟨hd, hg⟩ | ⟨c, hd, ho⟩
        · rw [if_pos hg] at hd
          cases hd
        · dsimp only at hd
          split at hd <;> cases hd
          cases ho
  | @call _ _ l l' c c' hs hl hc =>
      have hclosing := fun hp => h.isClosing_of_watcher hx hs hl hp
      have hclose : c'.isAccept = false := hc.isAccept_eq.trans (h.closes x c hx hs)
      refine h.call hl hc hclosing (by rw [hx]; rfl) ?_ (fun x' d hx' hd => ?_) fun x' hx' hd => ?_
      · rw [pending_eq hx, hs]
        exact Nat.add_right_comm ..
      · cases hx'; cases hd; exact hclose
      · cases hx'
        rcases hd with ⟨hd, -⟩ | ⟨d, hd, ho⟩
        · cases hd
        · cases hd; exact (hc.gate hclosing).2 hclose ho
  | @finish _ c hs hover =>
      refine h.withStage hx (fun hl => ?_) (fun c hc => by cases hc) fun l hl _ => ?_
      · -- A close that is over is not on its way any more.
        have hover := hover hl
        rw [hs]
        cases c <;> first | rfl | cases hover
      · exact h.done x l hx hl (.inr ⟨c, hs, hover (by rw [hl]; rfl)⟩)

/-- **Every move of the owner's call** tends it too. -/
theorem Tended.advance {l l' : Listener} {c c' : Listener.Call} {id : Nat}
    (h : Tended v c.isPending.toNat) (hl : v.listener = some l)
    (hm : Listener.Call.Does id c l y c' l' y') :
    Tended { v with listener := some l' } c'.isPending.toNat :=
  h.call hl hm (h.isClosing_of_owner hl) rfl (by change _ + v.pending + _ = _; omega) h.closes
    fun x hx hd => (hm.gate (h.isClosing_of_owner hl)).1 (h.done x l hx hl hd)

/-- To ask for a kill changes nothing about the listener. -/
theorem Tended.askKill (h : Tended v own) : Tended v.askKill own := by
  rcases hx : v.watcher with _ | x
  · have hsame : v.askKill = v := by
      rw [Vigil.askKill, hx, ← hx]
      cases v
      cases hx
      rfl
    rwa [hsame]
  · have hasked : v.askKill = { v with watcher := some { x with killAsked := true } } := by
      rw [Vigil.askKill, hx]
      rfl
    rw [hasked]
    refine ⟨h.gate, fun l hl => ?_, fun x' c hx' hs => ?_, fun x' l hx' hl hd => ?_, fun l hl => ?_⟩
    · rw [← h.pending l hl, pending_eq hx]; rfl
    · cases hx'; exact h.closes x c hx hs
    · cases hx'; exact h.done x l hx hl hd
    · refine (h.guarded l hl).imp_right fun ⟨x', hx', hg⟩ => ⟨_, rfl, ?_⟩
      rw [hx] at hx'
      cases hx'
      exact hg

/-- Nobody listens where there is no watcher to close the listener. -/
theorem Tended.ports_eq_nil (h : Tended v own) (hx : v.watcher = none) : v.ports = [] := by
  rcases hl : v.listener with _ | l
  · rw [ports, hl]; rfl
  · rcases h.guarded l hl with hd | ⟨x, hx', -⟩
    · rw [ports, hl, Option.elim_some, Listener.ports, hd]; rfl
    · rw [hx] at hx'; cases hx'

/-- **Once the watcher is over the listener is gone**, if the owner makes no
call, whoever passed the gate. -/
theorem Tended.joined (h : Tended v 0) (hover : v.watcher.all (·.stage == .finished) = true) :
    Tended { v with watcher := none } 0 := by
  have hfinished : ∀ x, v.watcher = some x → x.stage = .finished := fun x hx => by
    rw [hx] at hover
    simpa using hover
  -- No close is on its way, so a listener whose gate was passed is dropped.
  have hnone : v.pending = 0 := by
    rcases hx : v.watcher with _ | x
    · rw [Vigil.pending, hx]; rfl
    · rw [pending_eq hx, hfinished x hx]; rfl
  have hdropped : ∀ l, v.listener = some l → l.dropped = true := fun l hl => by
    rcases h.guarded l hl with hd | ⟨x, hx, hg⟩
    · exact hd
    · have hgate := h.done x l hx hl (.inl ⟨hfinished x hx, hg⟩)
      have hcount := h.pending l hl
      rw [hnone, Listener.isClosing, hgate] at hcount
      rcases hd : l.dropped with _ | _
      · rw [hd] at hcount; cases hcount
      · rfl
  refine ⟨h.gate, fun l hl => ?_, fun x _ hx => (nomatch hx), fun x _ hx => (nomatch hx),
    fun l hl => .inl (hdropped l hl)⟩
  rw [Listener.isClosing, hdropped l hl, Bool.not_true, Bool.and_false]
  rfl

/-- **What a watcher does to sockets**: it gives up the port that is listened
on, at most. -/
theorem Tended.watch_sockets (h : Tended v own) (hx : v.watcher = some x) (hm : Does v x y v' y') :
    ∃ es : Trace, y'.2 = y.2 ++ es ∧ es.opened = [] ∧ es.closed = [] ∧
      v.ports ++ es.bound = es.freed ++ v'.ports := by
  cases hm with
  | reap _ | kill _ => exact ⟨_, rfl, rfl, rfl, List.append_nil _⟩
  | ask _ _ | tell _ | finish _ _ =>
      exact ⟨[], (List.append_nil _).symm, rfl, rfl, List.append_nil _⟩
  | call hs hl hc =>
      obtain ⟨es, hes, hclosed, htaken, hports⟩ :=
        hc.sockets fun hp => h.isClosing_of_watcher hx hs hl hp
      refine ⟨es, hes, ?_, hclosed, ?_⟩
      · -- A close takes no connection.
        have hnone : ∀ {c : Listener.Call}, c.isAccept = false → c.taken = [] := by
          intro c hc
          cases c <;> first | rfl | cases hc
        have hclose := h.closes x _ hx hs
        rw [hnone hclose, hnone (hc.isAccept_eq.trans hclose)] at htaken
        exact htaken
      · rw [Vigil.ports, hl]
        exact hports

end Vigil

end DeviceLink
