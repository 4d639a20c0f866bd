import DeviceLink.Proofs.Listener.Moves
import DeviceLink.Proofs.Surroundings.Acts
import Mathlib.Logic.ExistsUnique
import Mathlib.Logic.Relation
/-!
# Listeners — calls that take turns

Any number of calls on one listener, begun at any time, take turns in any
order, one atomic move each, while the surroundings change as they like. A
close passes the gate alone, so one at most drops the listener and tells that
it did; `Sound` counts how far closes have come and ties the counts to the
listener's flags. `closes_once` collects what follows for the calls: who wins,
what the others come to, and that nobody waits for ever.
-/

namespace DeviceLink

/-- Whether a port was given up. -/
def Event.isUnlisten : Event → Bool
  | .unlisten _ => true
  | _ => false

/-- Whether a connection was asked for and something came of it. -/
def Event.isArrival : Event → Bool
  | .arrival _ _ => true
  | _ => false

namespace Listener

/-- A listener with the calls on it. -/
structure Shared (σ : Type) where
  listener : Listener
  /-- The calls, in the order in which they were begun. -/
  calls : List Call
  /-- The surroundings, with their trace. -/
  world : σ × Trace

variable {σ : Type} (S : Surroundings σ)

/-- **One turn**, and whose it is. -/
inductive Turn : Option Nat → Shared σ → Shared σ → Prop
  /-- An accept begins. -/
  | accept {l : Listener} {cs : List Call} {x : σ × Trace} :
      Turn none ⟨l, cs, x⟩ ⟨l, cs ++ [.queued], x⟩
  /-- A close begins. -/
  | close {l : Listener} {cs : List Call} {x : σ × Trace} :
      Turn none ⟨l, cs, x⟩ ⟨l, cs ++ [.closing], x⟩
  /-- A call moves. -/
  | move {l l' : Listener} {cs : List Call} {x x' : σ × Trace} {i : Nat} {c c' : Call} :
      cs[i]? = some c → (c', l', x') ∈ c.moves S.traced i l x →
      Turn (some i) ⟨l, cs, x⟩ ⟨l', cs.set i c', x'⟩
  /-- The surroundings change by themselves. -/
  | elapse {l : Listener} {cs : List Call} {w w' : σ} {t : Trace} :
      Turn none ⟨l, cs, w, t⟩ ⟨l, cs, w', t⟩

/-- Any number of turns. -/
def Reaches : Shared σ → Shared σ → Prop :=
  Relation.ReflTransGen fun g g' => ∃ who, Turn S who g g'

/-! ## What turns keep -/

/-- **How far closes have come**, and what the listener's flags say of it. -/
structure Sound (g : Shared σ) : Prop where
  gate : g.listener.gate.toNat = g.calls.count .shutting + g.calls.count .waiting +
    g.calls.count .dropping + g.calls.count (.closed true)
  shut : g.listener.shut.toNat =
    g.calls.count .waiting + g.calls.count .dropping + g.calls.count (.closed true)
  dropped : g.listener.dropped.toNat = g.calls.count (.closed true)
  /-- Who lost, lost to somebody. -/
  lost : .closed false ∈ g.calls → g.listener.gate = true
  holder : ∀ i, g.listener.holder = some i → ∃ c, g.calls[i]? = some c ∧ c.isHolding = true
  unlistened : g.world.2.filter Event.isUnlisten =
    List.replicate (g.calls.count (.closed true)) (.unlisten g.listener.bound)

variable {S}

section Count

variable {cs : List Call} {i : Nat} {c : Call}

/-- One call more. -/
theorem count_begun (cs : List Call) (c d : Call) :
    (cs ++ [c]).count d = cs.count d + if c = d then 1 else 0 := by
  rw [List.count_append, List.count_singleton]
  simp only [beq_iff_eq]

/-- One call in place of another. -/
theorem count_moved (h : cs[i]? = some c) (c' d : Call) :
    (cs.set i c').count d + (if c = d then 1 else 0) = cs.count d + if c' = d then 1 else 0 := by
  induction cs generalizing i with
  | nil => cases h
  | cons a cs ih =>
      cases i with
      | zero =>
          cases h
          simp only [List.set_cons_zero, List.count_cons, beq_iff_eq]
          omega
      | succ i =>
          have := ih (i := i) h
          simp only [List.set_cons_succ, List.count_cons, beq_iff_eq]
          omega

theorem getElem?_moved (h : cs[i]? = some c) {c' : Call} (j : Nat) :
    (cs.set i c')[j]? = if j = i then some c' else cs[j]? := by
  have hi : i < cs.length := (List.getElem?_eq_some_iff.1 h).1
  by_cases hj : j = i
  · rw [if_pos hj, hj, List.getElem?_set_self hi]
  · rw [if_neg hj, List.getElem?_set_ne (Ne.symm hj)]

end Count

/-- A listener nobody has called on yet. -/
theorem sound_new (port bound : Port) (w : σ) {t : Trace} (ht : t.filter Event.isUnlisten = []) :
    Sound ⟨{ port, bound }, [], w, t⟩ :=
  ⟨rfl, rfl, rfl, fun h => (nomatch h), fun _ h => (nomatch h), ht⟩

/-- A call that is begun has not come far. -/
theorem Sound.begin {l : Listener} {cs : List Call} {x : σ × Trace} (h : Sound ⟨l, cs, x⟩)
    {c : Call} (hc : c = .queued ∨ c = .closing) : Sound ⟨l, cs ++ [c], x⟩ := by
  obtain ⟨hg, hs, hd, hlost, hholder, hun⟩ := h
  have h₁ := count_begun cs c .shutting
  have h₂ := count_begun cs c .waiting
  have h₃ := count_begun cs c .dropping
  have h₄ := count_begun cs c (.closed true)
  have hne : c ≠ .shutting ∧ c ≠ .waiting ∧ c ≠ .dropping ∧ c ≠ .closed true := by
    rcases hc with rfl | rfl <;> decide
  simp only [hne, if_false, Nat.add_zero] at h₁ h₂ h₃ h₄
  refine ⟨?_, ?_, ?_, fun hm => ?_, fun i hi => ?_, ?_⟩
  · simp only [h₁, h₂, h₃, h₄]; exact hg
  · simp only [h₂, h₃, h₄]; exact hs
  · simp only [h₄]; exact hd
  · rcases List.mem_append.1 hm with hm | hm
    · exact hlost hm
    · rcases hc with rfl | rfl <;> simp at hm
  · obtain ⟨d, hd, hh⟩ := hholder i hi
    have hlt : i < cs.length := (List.getElem?_eq_some_iff.1 hd).1
    exact ⟨d, (List.getElem?_append_left hlt).trans hd, hh⟩
  · simp only [h₄]; exact hun

section Move

variable {l l' : Listener} {cs : List Call} {x x' : σ × Trace} {i : Nat} {c c' : Call}

/-- How a move counts: a close comes one step further, or nothing changes. -/
theorem Sound.move_counts (h : Sound ⟨l, cs, x⟩) (hi : cs[i]? = some c)
    (hm : Call.Does i c l x c' l' x') :
    l'.gate.toNat = (cs.set i c').count .shutting + (cs.set i c').count .waiting +
        (cs.set i c').count .dropping + (cs.set i c').count (.closed true) ∧
      l'.shut.toNat = (cs.set i c').count .waiting + (cs.set i c').count .dropping +
        (cs.set i c').count (.closed true) ∧
      l'.dropped.toNat = (cs.set i c').count (.closed true) := by
  obtain ⟨hg, hs, hd, -, -, -⟩ := h
  have h₁ := count_moved hi c' .shutting
  have h₂ := count_moved hi c' .waiting
  have h₃ := count_moved hi c' .dropping
  have h₄ := count_moved hi c' (.closed true)
  -- The call that moves is one of those counted, so the counts below do not run
  -- under zero; a flag counts for one at most.
  have hc : 0 < cs.count c := List.count_pos_iff.2 (List.mem_of_getElem? hi)
  have hgate := Bool.toNat_le l.gate
  dsimp only at hg hs hd
  cases hm with
  | pass hno =>
      simp only [hno, Bool.toNat_false, Bool.toNat_true, reduceCtorEq, if_true, if_false] at *
      omega
  | _ =>
      simp only [Call.closed.injEq, Bool.false_eq_true, Bool.toNat_true, reduceCtorEq, if_true,
        if_false] at *
      omega

/-- A move tells that a close lost only where one has passed the gate. -/
theorem Sound.move_lost (h : Sound ⟨l, cs, x⟩) (hm : Call.Does i c l x c' l' x')
    (hlost : .closed false ∈ cs.set i c') : l'.gate = true := by
  have hkeep : l.gate = true → l'.gate = true := by
    intro hg
    cases hm <;> first | exact hg | rfl
  rcases List.mem_or_eq_of_mem_set hlost with hold | hnew
  · exact hkeep (h.lost hold)
  · subst hnew
    cases hm with
    | lose hg => exact hg

/-- Who holds the lock after a move, is a call that does. -/
theorem Sound.move_holder (h : Sound ⟨l, cs, x⟩) (hi : cs[i]? = some c)
    (hm : Call.Does i c l x c' l' x') (j : Nat) (hj : l'.holder = some j) :
    ∃ d, (cs.set i c')[j]? = some d ∧ d.isHolding = true := by
  -- The lock stays with its holder, or it goes to the call that moves.
  have hkeep : l'.holder = l.holder → c.isHolding = false →
      ∃ d, (cs.set i c')[j]? = some d ∧ d.isHolding = true := by
    intro heq hc
    obtain ⟨d, hd, hh⟩ := h.holder j (heq ▸ hj)
    have hne : j ≠ i := by
      rintro rfl
      rw [show cs[j]? = some d from hd] at hi
      cases hi
      rw [hh] at hc
      cases hc
    exact ⟨d, by rw [getElem?_moved hi, if_neg hne]; exact hd, hh⟩
  have hnew : ∀ {d : Call}, d.isHolding = true → c' = d → j = i →
      ∃ d, (cs.set i c')[j]? = some d ∧ d.isHolding = true := by
    rintro d hd rfl rfl
    exact ⟨c', by rw [getElem?_moved hi, if_pos rfl], hd⟩
  cases hm with
  | giveUp _ => exact hkeep rfl rfl
  | lock _ => exact hnew (d := .accepting) rfl rfl (Option.some.inj hj).symm
  | wake _ => cases hj
  | take _ => cases hj
  | refuse _ => cases hj
  | lose _ => exact hkeep rfl rfl
  | pass _ => exact hkeep rfl rfl
  | shut => exact hkeep rfl rfl
  | hold _ => exact hnew (d := .dropping) rfl rfl (Option.some.inj hj).symm
  | drop => cases hj

/-- The port is given up by the move that ends a close, and by no other. -/
theorem Sound.move_unlistened (h : Sound ⟨l, cs, x⟩) (hi : cs[i]? = some c)
    (hm : Call.Does i c l x c' l' x') : x'.2.filter Event.isUnlisten =
      List.replicate ((cs.set i c').count (.closed true)) (.unlisten l'.bound) := by
  have h₄ := count_moved hi c' (.closed true)
  have hun := h.unlistened
  dsimp only at hun
  cases hm with
  | drop =>
      simp only [reduceCtorEq, if_true, if_false, Nat.add_zero] at h₄
      rw [h₄, List.filter_append, hun, List.replicate_succ']
      rfl
  | take _ | refuse _ =>
      simp only [reduceCtorEq, if_false, Nat.add_zero] at h₄
      rw [h₄, List.filter_append, hun]
      exact List.append_nil _
  | _ =>
      simp only [Call.closed.injEq, Bool.false_eq_true, reduceCtorEq, if_false, Nat.add_zero] at h₄
      rw [h₄]
      exact hun

/-- **A move keeps the counts and the flags together.** -/
theorem Sound.move (h : Sound ⟨l, cs, x⟩) (hi : cs[i]? = some c)
    (hm : Call.Does i c l x c' l' x') : Sound ⟨l', cs.set i c', x'⟩ :=
  ⟨(h.move_counts hi hm).1, (h.move_counts hi hm).2.1, (h.move_counts hi hm).2.2, h.move_lost hm,
    h.move_holder hi hm, h.move_unlistened hi hm⟩

end Move

theorem Sound.turn {g g' : Shared σ} (h : Sound g) {who : Option Nat} (ht : Turn S who g g') :
    Sound g' := by
  cases ht with
  | accept => exact h.begin (.inl rfl)
  | close => exact h.begin (.inr rfl)
  | move hi hm => exact h.move hi (Call.moves_does hm)
  | elapse => exact ⟨h.gate, h.shut, h.dropped, h.lost, h.holder, h.unlistened⟩

theorem Sound.reaches {g g' : Shared σ} (h : Sound g) (hr : Reaches S g g') : Sound g' := by
  induction hr with
  | refl => exact h
  | tail _ ht ih =>
      obtain ⟨who, ht⟩ := ht
      exact ih.turn ht

theorem bound_turn {g g' : Shared σ} {who : Option Nat} (ht : Turn S who g g') :
    g'.listener.bound = g.listener.bound := by
  cases ht with
  | move hi hm =>
      have hdoes := Call.moves_does hm
      cases hdoes <;> rfl
  | _ => rfl

theorem bound_reaches {g g' : Shared σ} (hr : Reaches S g g') :
    g'.listener.bound = g.listener.bound := by
  induction hr with
  | refl => rfl
  | tail _ ht ih =>
      obtain ⟨who, ht⟩ := ht
      rw [bound_turn ht, ih]

/-! ## Who wins -/

theorem Sound.closed_le_one {g : Shared σ} (h : Sound g) : g.calls.count (.closed true) ≤ 1 := by
  rw [← h.dropped]
  exact Bool.toNat_le _

theorem Sound.sole {g : Shared σ} (h : Sound g) {i j : Nat}
    (hi : g.calls[i]? = some (.closed true)) (hj : g.calls[j]? = some (.closed true)) : i = j := by
  -- With one winner taken back, the other would still count.
  refine Decidable.byContradiction fun hne => ?_
  have hcount := count_moved hi .closing (.closed true)
  have hmem : .closed true ∈ g.calls.set i .closing := by
    refine List.mem_of_getElem? (i := j) ?_
    rw [getElem?_moved hi, if_neg (Ne.symm hne)]
    exact hj
  have hpos := List.count_pos_iff.2 hmem
  have hle := h.closed_le_one
  simp only [reduceCtorEq, if_true, if_false] at hcount
  omega

/-- Once every close is over, one of them has won. -/
theorem Sound.winner {g : Shared σ} (h : Sound g) (hc : ∃ c ∈ g.calls, c.isClose = true)
    (hover : ∀ c ∈ g.calls, c.isClose = true → c.isOver = true) :
    ∃! i : Nat, g.calls[i]? = some (.closed true) := by
  have hwon : Call.closed true ∈ g.calls := by
    obtain ⟨c, hmem, hclose⟩ := hc
    have hzero : ∀ d : Call, d.isClose = true → d.isOver = false → g.calls.count d = 0 := by
      intro d hd hn
      refine List.count_eq_zero.2 fun hm => ?_
      rw [hover d hm hd] at hn
      cases hn
    have hcover := hover c hmem hclose
    cases c with
    | closed first =>
        cases first with
        | true => exact hmem
        | false =>
            -- It lost, so a close has passed the gate, and none is on its way.
            have hgate := h.gate
            rw [h.lost hmem, hzero .shutting rfl rfl, hzero .waiting rfl rfl,
              hzero .dropping rfl rfl, Bool.toNat_true] at hgate
            exact List.count_pos_iff.1 (by omega)
    | queued | accepting | accepted _ | refused _ => cases hclose
    | closing | shutting | waiting | dropping => cases hcover
  obtain ⟨i, hi⟩ := List.mem_iff_getElem?.1 hwon
  exact ⟨i, hi, fun j hj => h.sole hj hi⟩

/-- The port was given up if a close has won, and once. -/
theorem Sound.unlistened_eq {g : Shared σ} (h : Sound g) :
    g.world.2.filter Event.isUnlisten =
      if .closed true ∈ g.calls then [.unlisten g.listener.bound] else [] := by
  have hle := h.closed_le_one
  rw [h.unlistened]
  by_cases hwon : .closed true ∈ g.calls
  · have hpos := List.count_pos_iff.2 hwon
    rw [if_pos hwon, show g.calls.count (.closed true) = 1 by omega]
    rfl
  · rw [if_neg hwon, List.count_eq_zero.2 hwon]
    rfl

/-- Whose turn gives up the port, wins. -/
theorem dropper_of_turn {g g' : Shared σ} {who : Option Nat} (ht : Turn S who g g')
    (hne : g'.world.2.filter Event.isUnlisten ≠ g.world.2.filter Event.isUnlisten) :
    ∃ i, who = some i ∧ g.calls[i]? = some .dropping ∧ g'.calls[i]? = some (.closed true) := by
  cases ht with
  | @move l l' cs x x' i c c' hi hm =>
      have hdoes := Call.moves_does hm
      cases hdoes with
      | drop => exact ⟨i, rfl, hi, by rw [getElem?_moved hi, if_pos rfl]⟩
      | take _ | refuse _ =>
          refine absurd ?_ hne
          rw [List.filter_append]
          exact List.append_nil _
      | _ => exact absurd rfl hne
  | _ => exact absurd rfl hne

/-! ## Nobody waits for ever -/

/-- **No deadlock.** Once the listener is shut, one of the calls that are not
over can move: who waits for the lock waits for a call that can. -/
theorem Sound.live {g : Shared σ} (h : Sound g) (hs : g.listener.shut = true)
    (hc : ∃ c ∈ g.calls, c.isOver = false) :
    ∃ (i : Nat) (c : Call), g.calls[i]? = some c ∧ c.isOver = false ∧
      c.moves S.traced i g.listener g.world ≠ [] := by
  obtain ⟨c, hmem, hover⟩ := hc
  obtain ⟨i, hi⟩ := List.mem_iff_getElem?.1 hmem
  -- The holder of the lock never waits for it.
  rcases hholder : g.listener.holder with _ | j
  · exact ⟨i, c, hi, hover, Call.exists_move_of_shut hs hover (fun _ => hholder) S.traced i g.world⟩
  · obtain ⟨d, hj, hd⟩ := h.holder j hholder
    have hdover : d.isOver = false := by cases d <;> first | rfl | cases hd
    refine ⟨j, d, hj, hdover, Call.exists_move_of_shut hs hdover (fun hw => ?_) S.traced j g.world⟩
    subst hw
    cases hd

/-! ## After a close has won -/

/-- The call of a number is not over, or not even begun. -/
def Pending (g : Shared σ) (i : Nat) : Prop := ∀ c, g.calls[i]? = some c → c.isOver = false

/-- Once a close has won, the accepts are told to give up and the port is
given up. -/
theorem Sound.flags_of_closed {g : Shared σ} (h : Sound g) (hwon : .closed true ∈ g.calls) :
    g.listener.shut = true ∧ g.listener.dropped = true := by
  have hpos := List.count_pos_iff.2 hwon
  have hshut := h.shut
  have hdropped := h.dropped
  constructor
  · cases hs : g.listener.shut with
    | true => rfl
    | false => rw [hs, Bool.toNat_false] at hshut; omega
  · cases hd : g.listener.dropped with
    | true => rfl
    | false => rw [hd, Bool.toNat_false] at hdropped; omega

/-- What one turn does to a call: it moves, or nothing does. -/
theorem call_turn {g g' : Shared σ} {who : Option Nat} (ht : Turn S who g g') {i : Nat} {c : Call}
    (hi : g.calls[i]? = some c) :
    ∃ c', g'.calls[i]? = some c' ∧ c'.isAccept = c.isAccept ∧
      (c' = c ∨ who = some i ∧ c'.rank < c.rank) ∧ (who = some i → c'.rank < c.rank) := by
  have hbegun : ∀ c', (g.calls ++ [c'])[i]? = some c := fun c' => by
    rw [List.getElem?_append_left (List.getElem?_eq_some_iff.1 hi).1, hi]
  cases ht with
  | accept | close => exact ⟨c, hbegun _, rfl, .inl rfl, fun h => by cases h⟩
  | elapse => exact ⟨c, hi, rfl, .inl rfl, fun h => by cases h⟩
  | @move l l' cs x x' j d d' hj hm =>
      have hrank : d'.rank < d.rank := Call.rank_lt_of_mem_moves S.traced j hm
      have hkind : d'.isAccept = d.isAccept := by
        have hdoes := Call.moves_does hm
        cases hdoes <;> rfl
      by_cases hji : i = j
      · subst hji
        rw [show cs[i]? = some c from hi] at hj
        cases hj
        exact ⟨d', by rw [getElem?_moved hi, if_pos rfl], hkind, .inr ⟨rfl, hrank⟩, fun _ => hrank⟩
      · exact ⟨c, by rw [getElem?_moved hj, if_neg hji]; exact hi, rfl, .inl rfl,
          fun h => absurd (Option.some.inj h).symm hji⟩

/-- One move after a close has won. -/
theorem Sound.move_closed {l l' : Listener} {cs : List Call} {x x' : σ × Trace} {i : Nat}
    {c c' : Call} (h : Sound ⟨l, cs, x⟩) (hwon : .closed true ∈ cs) (hi : cs[i]? = some c)
    (hdoes : Call.Does i c l x c' l' x') :
    .closed true ∈ cs.set i c' ∧
      x'.2.filter Event.isArrival = x.2.filter Event.isArrival ∧
      ∀ (j : Nat) (d : Call), (∀ c : Call, cs[j]? = some c → c.isOver = false) →
        (cs.set i c')[j]? = some d → d.isAccept = true → d.isOver = true →
          d = .accepted none := by
  have hdropped : l.dropped = true := (h.flags_of_closed hwon).2
  -- The call that moves is not the one that has won.
  have hstill : c ≠ .closed true := by
    rintro rfl
    cases hdoes
  have hmem : .closed true ∈ cs.set i c' := by
    obtain ⟨j, hj⟩ := List.mem_iff_getElem?.1 hwon
    refine List.mem_of_getElem? (i := j) ?_
    rw [getElem?_moved hi, if_neg ?_]
    · exact hj
    · rintro rfl
      rw [hj] at hi
      exact hstill (Option.some.inj hi).symm
  refine ⟨hmem, ?_, fun j d hp hj ha hover => ?_⟩
  · cases hdoes with
    | take hd | refuse hd => rw [hdropped] at hd; cases hd
    | drop => rw [List.filter_append]; exact List.append_nil _
    | _ => rfl
  · rw [getElem?_moved hi] at hj
    by_cases hji : j = i
    · rw [if_pos hji] at hj
      cases hj
      cases hdoes with
      | giveUp _ | wake _ => rfl
      | take hd | refuse hd => rw [hdropped] at hd; cases hd
      | lock _ => cases hover
      | _ => cases ha
    · rw [if_neg hji] at hj
      rw [hp d hj] at hover
      cases hover

/-- One turn after a close has won: it has still won, nothing is accepted, and
an accept that ends, ends without a connection. -/
theorem Sound.turn_closed {g g' : Shared σ} (h : Sound g) (hwon : .closed true ∈ g.calls)
    {who : Option Nat} (ht : Turn S who g g') :
    .closed true ∈ g'.calls ∧
      g'.world.2.filter Event.isArrival = g.world.2.filter Event.isArrival ∧
      ∀ i c, Pending g i → g'.calls[i]? = some c → c.isAccept = true → c.isOver = true →
        c = .accepted none := by
  have hbegun : ∀ {cs : List Call} {c' : Call}, c'.isOver = false → ∀ (i : Nat) (c : Call),
      (∀ c : Call, cs[i]? = some c → c.isOver = false) → (cs ++ [c'])[i]? = some c →
        c.isAccept = true → c.isOver = true → c = .accepted none := by
    intro cs c' hc' i c hp hi _ hover
    rcases Nat.lt_or_ge i cs.length with hlt | hge
    · rw [List.getElem?_append_left hlt] at hi
      rw [hp c hi] at hover
      cases hover
    · rw [List.getElem?_append_right hge] at hi
      have hmem := List.mem_of_getElem? hi
      rw [List.mem_singleton] at hmem
      rw [hmem, hc'] at hover
      cases hover
  cases ht with
  | accept => exact ⟨List.mem_append_left _ hwon, rfl, hbegun rfl⟩
  | close => exact ⟨List.mem_append_left _ hwon, rfl, hbegun rfl⟩
  | elapse =>
      refine ⟨hwon, rfl, fun i c hp hi _ hover => ?_⟩
      rw [hp c hi] at hover
      cases hover
  | move hi hm => exact h.move_closed hwon hi (Call.moves_does hm)

/-- **Nothing is accepted any more** once a close has won, and every accept that
was not over then, or begins later, ends without a connection or can move. -/
theorem Sound.reaches_closed {g g' : Shared σ} (h : Sound g) (hwon : .closed true ∈ g.calls)
    (hr : Reaches S g g') :
    .closed true ∈ g'.calls ∧
      g'.world.2.filter Event.isArrival = g.world.2.filter Event.isArrival ∧
      ∀ i c, Pending g i → g'.calls[i]? = some c → c.isAccept = true →
        (c.isOver = true → c = .accepted none) ∧
        (c.isOver = false → c.moves S.traced i g'.listener g'.world ≠ []) := by
  have hmove : ∀ {g' : Shared σ}, Sound g' → .closed true ∈ g'.calls → ∀ i (c : Call),
      c.isAccept = true → c.isOver = false → c.moves S.traced i g'.listener g'.world ≠ [] := by
    intro g' h' hwon' i c ha hover
    refine Call.exists_move_of_shut (h'.flags_of_closed hwon').1 hover (fun hw => ?_) _ _ _
    subst hw
    cases ha
  induction hr with
  | refl =>
      refine ⟨hwon, rfl, fun i c hp hi ha => ⟨fun hover => ?_, hmove h hwon i c ha⟩⟩
      rw [hp c hi] at hover
      cases hover
  | @tail g₁ g₂ hr ht ih =>
      obtain ⟨who, ht⟩ := ht
      have h₁ := h.reaches hr
      obtain ⟨hwon₁, harr, hends⟩ := ih
      obtain ⟨hwon₂, harr₂, hends₂⟩ := h₁.turn_closed hwon₁ ht
      refine ⟨hwon₂, harr₂.trans harr, fun i c hp hi ha =>
        ⟨fun hover => ?_, hmove (h₁.turn ht) hwon₂ i c ha⟩⟩
      by_cases hp₁ : ∃ c₁, g₁.calls[i]? = some c₁ ∧ c₁.isOver = true
      · -- The call was over before this turn, which leaves it as it is.
        obtain ⟨c₁, hi₁, hover₁⟩ := hp₁
        obtain ⟨c₂, hi₂, hkind, hsame, -⟩ := call_turn ht hi₁
        obtain rfl : c₂ = c := Option.some.inj (hi₂.symm.trans hi)
        have hrank : c₁.rank = 0 := by simpa only [Call.isOver, beq_iff_eq] using hover₁
        rcases hsame with rfl | ⟨-, hlt⟩
        · exact (hends i c₂ hp hi₁ ha).1 hover
        · omega
      · refine hends₂ i c (fun c₁ hi₁ => ?_) hi ha hover
        exact Bool.eq_false_iff.2 fun hover₁ => hp₁ ⟨c₁, hi₁, hover₁⟩

/-- **A run without end**: one turn after the other, each somebody's or
nobody's. -/
structure Run (S : Surroundings σ) (g : Shared σ) where
  state : Nat → Shared σ
  who : Nat → Option Nat
  begins : state 0 = g
  turn : ∀ n, Turn S (who n) (state n) (state (n + 1))

/-- A call that could move all the time from some point on, moves. -/
def Run.FairTo {g : Shared σ} (r : Run S g) (i : Nat) : Prop :=
  ∀ n, (∀ m, n ≤ m → ∃ c, (r.state m).calls[i]? = some c ∧
      c.moves S.traced i (r.state m).listener (r.state m).world ≠ []) →
    ∃ m, n ≤ m ∧ r.who m = some i

theorem Run.reaches {g : Shared σ} (r : Run S g) (n : Nat) : Reaches S g (r.state n) := by
  induction n with
  | zero => rw [r.begins]; exact .refl
  | succ n ih => exact ih.tail ⟨_, r.turn n⟩

/-- A call does not get further from its end, nor become another. -/
theorem Run.call {g : Shared σ} (r : Run S g) {i n : Nat} {c : Call}
    (hi : (r.state n).calls[i]? = some c) {m : Nat} (hm : n ≤ m) :
    ∃ c', (r.state m).calls[i]? = some c' ∧ c'.isAccept = c.isAccept ∧ c'.rank ≤ c.rank := by
  induction hm with
  | refl => exact ⟨c, hi, rfl, Nat.le_refl _⟩
  | @step m _ ih =>
      obtain ⟨c₁, hi₁, hkind₁, hrank₁⟩ := ih
      obtain ⟨c₂, hi₂, hkind₂, hsame, -⟩ := call_turn (r.turn m) hi₁
      refine ⟨c₂, hi₂, hkind₂.trans hkind₁, ?_⟩
      rcases hsame with rfl | ⟨-, hlt⟩
      · exact hrank₁
      · omega

/-- **Every accept ends** once a close has won, in a run that is fair to it, and
without a connection: it can move for as long as it is not over, and each of
its moves brings it closer to its end. -/
theorem Run.accept_ends {g : Shared σ} (h : Sound g) (hwon : .closed true ∈ g.calls) (r : Run S g)
    {i : Nat} (hp : Pending g i) (hfair : r.FairTo i) :
    ∀ {n : Nat} {c : Call}, (r.state n).calls[i]? = some c → c.isAccept = true →
      ∃ m, n ≤ m ∧ (r.state m).calls[i]? = some (.accepted none) := by
  -- By induction on how many moves the call has left at most.
  suffices hrank : ∀ k n (c : Call), (r.state n).calls[i]? = some c → c.isAccept = true →
      c.rank ≤ k → ∃ m, n ≤ m ∧ (r.state m).calls[i]? = some (.accepted none) from
    fun {n c} hi ha => hrank c.rank n c hi ha (Nat.le_refl _)
  intro k
  induction k with
  | zero =>
      intro n c hi ha hk
      have hover : c.isOver = true := by rw [Call.isOver, beq_iff_eq]; omega
      obtain ⟨-, -, hends⟩ := h.reaches_closed hwon (r.reaches n)
      rw [(hends i c hp hi ha).1 hover] at hi
      exact ⟨n, Nat.le_refl n, hi⟩
  | succ k ih =>
      intro n c hi ha hk
      by_cases hover : ∃ m c', n ≤ m ∧ (r.state m).calls[i]? = some c' ∧ c'.isOver = true
      · obtain ⟨m, c', hm, hi', hover⟩ := hover
        obtain ⟨c₁, hi₁, hkind, -⟩ := r.call hi hm
        obtain rfl : c₁ = c' := Option.some.inj (hi₁.symm.trans hi')
        obtain ⟨-, -, hends⟩ := h.reaches_closed hwon (r.reaches m)
        rw [(hends i c₁ hp hi' (hkind.trans ha)).1 hover] at hi'
        exact ⟨m, hm, hi'⟩
      · -- It is never over, so it can move all the time, and is given a turn.
        obtain ⟨m, hm, hwho⟩ := hfair n fun m hm => by
          obtain ⟨c', hi', hkind, -⟩ := r.call hi hm
          obtain ⟨-, -, hends⟩ := h.reaches_closed hwon (r.reaches m)
          refine ⟨c', hi', (hends i c' hp hi' (hkind.trans ha)).2 ?_⟩
          exact Bool.eq_false_iff.2 fun ho => hover ⟨m, c', hm, hi', ho⟩
        obtain ⟨c₁, hi₁, hkind₁, hrank₁⟩ := r.call hi hm
        obtain ⟨c₂, hi₂, hkind₂, -, hlt⟩ := call_turn (r.turn m) hi₁
        have hless := hlt hwho
        obtain ⟨m', hm', hend⟩ :=
          ih (m + 1) c₂ hi₂ (hkind₂.trans (hkind₁.trans ha)) (by omega)
        exact ⟨m', by omega, hend⟩

/-! ## The whole of it -/

/-- **What is promised of the calls on a listener that was bound to a port.** -/
structure ClosesOnce (S : Surroundings σ) (bound : Port) (g : Shared σ) : Prop where
  /-- One close at most tells that it was the one. -/
  sole : ∀ i j : Nat, g.calls[i]? = some (.closed true) → g.calls[j]? = some (.closed true) → i = j
  /-- One does, once there was a close and every close is over. -/
  winner : (∃ c ∈ g.calls, c.isClose = true) →
    (∀ c ∈ g.calls, c.isClose = true → c.isOver = true) →
    ∃! i : Nat, g.calls[i]? = some (.closed true)
  /-- The port is given up once, and not before a close has told so. -/
  unlistened : g.world.2.filter Event.isUnlisten =
    if .closed true ∈ g.calls then [.unlisten bound] else []
  /-- It is given up by the move with which that close ends. -/
  dropper : ∀ who g', Turn S who g g' →
    g'.world.2.filter Event.isUnlisten ≠ g.world.2.filter Event.isUnlisten →
    ∃ i, who = some i ∧ g.calls[i]? = some .dropping ∧ g'.calls[i]? = some (.closed true)
  /-- After that nothing is accepted, and an accept that has not ended, or
  begins later, can move until it ends without a connection. -/
  after : .closed true ∈ g.calls → ∀ g', Reaches S g g' →
    g'.world.2.filter Event.isArrival = g.world.2.filter Event.isArrival ∧
      ∀ i c, Pending g i → g'.calls[i]? = some c → c.isAccept = true →
        (c.isOver = true → c = .accepted none) ∧
        (c.isOver = false → c.moves S.traced i g'.listener g'.world ≠ [])
  /-- It does end. -/
  ends : .closed true ∈ g.calls → ∀ (r : Run S g) (i : Nat), Pending g i → r.FairTo i →
    ∀ n c, (r.state n).calls[i]? = some c → c.isAccept = true →
      ∃ m, n ≤ m ∧ (r.state m).calls[i]? = some (.accepted none)
  /-- There is no deadlock. -/
  live : g.listener.shut = true → (∃ c ∈ g.calls, c.isOver = false) →
    ∃ (i : Nat) (c : Call), g.calls[i]? = some c ∧ c.isOver = false ∧
      c.moves S.traced i g.listener g.world ≠ []

/-- **A listener closes once**, however many calls take turns on it and in
whatever order. -/
theorem closes_once {port : Port} {w : σ} {l : Listener} {x : σ × Trace} {g : Shared σ}
    (hbind : Listener.bind S.traced port (w, []) = (.ok l, x)) (hr : Reaches S ⟨l, [], x⟩ g) :
    ClosesOnce S l.bound g := by
  rw [Listener.bind_apply, Surroundings.traced_listen] at hbind
  have hnew : Sound (⟨l, [], x⟩ : Shared σ) := by
    generalize S.listen port w = y at hbind
    obtain ⟨e | bound, w'⟩ := y
    · cases hbind
    · cases hbind
      exact sound_new port bound w' rfl
  have h := hnew.reaches hr
  have hbound : g.listener.bound = l.bound := bound_reaches hr
  exact
    { sole := fun _ _ => h.sole
      winner := h.winner
      unlistened := hbound ▸ h.unlistened_eq
      dropper := fun _ _ => dropper_of_turn
      after := fun hwon _ hr => (h.reaches_closed hwon hr).2
      ends := fun hwon r _ hp hfair _ _ => r.accept_ends h hwon hp hfair
      live := h.live }

/-- An accept and a close of the same listener: the close wins. -/
theorem closes_once_of_close :
    ∃ l x g, Listener.bind Surroundings.barren.traced 7 ((), []) = (.ok l, x) ∧
      Reaches Surroundings.barren ⟨l, [], x⟩ g ∧ g.calls = [.accepted none, .closed true] ∧
      ClosesOnce Surroundings.barren l.bound g := by
  let l : Listener := { port := 7, bound := 7 }
  let x : Unit × Trace := ((), [.listen 7 (.ok 7)])
  have h₁ : Turn Surroundings.barren none ⟨l, [], x⟩ ⟨l, [.queued], x⟩ := .accept
  have h₂ : Turn Surroundings.barren none ⟨l, [.queued], x⟩ ⟨l, [.queued, .closing], x⟩ := .close
  have h₃ : Turn Surroundings.barren (some 1) ⟨l, [.queued, .closing], x⟩
      ⟨{ l with gate := true }, [.queued, .shutting], x⟩ := .move rfl (List.mem_singleton.2 rfl)
  have h₄ : Turn Surroundings.barren (some 1) ⟨{ l with gate := true }, [.queued, .shutting], x⟩
      ⟨{ l with gate := true, shut := true }, [.queued, .waiting], x⟩ :=
    .move rfl (List.mem_singleton.2 rfl)
  have h₅ : Turn Surroundings.barren (some 0)
      ⟨{ l with gate := true, shut := true }, [.queued, .waiting], x⟩
      ⟨{ l with gate := true, shut := true }, [.accepted none, .waiting], x⟩ :=
    .move rfl List.mem_cons_self
  have h₆ : Turn Surroundings.barren (some 1)
      ⟨{ l with gate := true, shut := true }, [.accepted none, .waiting], x⟩
      ⟨{ l with gate := true, shut := true, holder := some 1 }, [.accepted none, .dropping], x⟩ :=
    .move rfl (List.mem_singleton.2 rfl)
  have h₇ : Turn Surroundings.barren (some 1)
      ⟨{ l with gate := true, shut := true, holder := some 1 }, [.accepted none, .dropping], x⟩
      ⟨{ l with gate := true, shut := true, dropped := true }, [.accepted none, .closed true],
        (), [.listen 7 (.ok 7), .unlisten 7]⟩ :=
    .move rfl (List.mem_singleton.2 rfl)
  have hr : Reaches Surroundings.barren ⟨l, [], x⟩
      ⟨{ l with gate := true, shut := true, dropped := true }, [.accepted none, .closed true],
        (), [.listen 7 (.ok 7), .unlisten 7]⟩ :=
    ((((((Relation.ReflTransGen.single ⟨_, h₁⟩).tail ⟨_, h₂⟩).tail ⟨_, h₃⟩).tail ⟨_, h₄⟩).tail
      ⟨_, h₅⟩).tail ⟨_, h₆⟩).tail ⟨_, h₇⟩
  have hbind : Listener.bind Surroundings.barren.traced 7 ((), []) = (.ok l, x) := rfl
  exact ⟨l, x, _, hbind, hr, rfl, closes_once hbind hr⟩

end Listener

end DeviceLink
