import DeviceLink.Proofs.Surroundings.Acts
/-!
# Watchers — what holds throughout a wait

Whoever waits lets the watcher move, asks for what it waits for and lets time
pass, over and over. The rules of this file say it once: a property that these
three keep holds at the end of the wait (`waitFor_ends`, `passUntil_ends`),
however long it was. The calls on a listener and the waits a session makes are
instances.
-/

namespace DeviceLink

variable {σ : Type} {S : Surroundings σ}

/-! ## One move at a time -/

theorem Listener.Call.run_of_moves {id : Nat} {c : Call} {l : Listener} {w : σ}
    (h : c.moves S id l w = []) : c.run S id l w = (c, l, w) := by
  rw [Call.run]
  split
  · rfl
  · next hm => rw [h] at hm; cases hm

theorem Listener.Call.run_cons {id : Nat} {c : Call} {l : Listener} {w : σ}
    {m : Call × Listener × σ} {ms : List (Call × Listener × σ)}
    (h : c.moves S id l w = m :: ms) : c.run S id l w = m.1.run S id m.2.1 m.2.2 := by
  rw [Call.run]
  split
  · next hm => rw [h] at hm; cases hm
  · next hm => rw [h] at hm; cases hm; rfl

theorem Vigil.settled_of_moves {v : Vigil} {w : σ} (h : v.moves S w = []) :
    v.settled S w = (v, w) := by
  rw [Vigil.settled]
  split
  · rfl
  · next hm => rw [h] at hm; cases hm

theorem Vigil.settled_cons {v : Vigil} {w : σ} {m : Vigil × σ} {ms : List (Vigil × σ)}
    (h : v.moves S w = m :: ms) : v.settled S w = m.1.settled S m.2 := by
  rw [Vigil.settled]
  split
  · next hm => rw [h] at hm; cases hm
  · next hm => rw [h] at hm; cases hm; rfl

/-! ## The rules -/

/-- A call on a listener keeps what each of its moves keeps. -/
theorem Listener.Call.run_ends {id : Nat} {P : Call → Listener → σ → Prop}
    (move : ∀ {c l w m}, P c l w → m ∈ Call.moves S id c l w → P m.1 m.2.1 m.2.2)
    {c : Call} {l : Listener} {w : σ} (h : P c l w) :
    P (c.run S id l w).1 (c.run S id l w).2.1 (c.run S id l w).2.2 := by
  fun_induction Call.run S id c l w with
  | case1 c l w hm => exact h
  | case2 c l w m rest hm _ ih => exact ih (move h (hm ▸ List.mem_cons_self))

namespace Vigil

/-- The watcher keeps what each of its moves keeps. -/
theorem settled_ends {P : Vigil → σ → Prop}
    (watch : ∀ {v w m}, P v w → m ∈ v.moves S w → P m.1 m.2)
    {v : Vigil} {w : σ} (h : P v w) : P (v.settled S w).1 (v.settled S w).2 := by
  fun_induction Vigil.settled S v w with
  | case1 v w hm => exact h
  | case2 v w m rest hm _ ih => exact ih (watch h (hm ▸ List.mem_cons_self))

/-- One round of a wait for an answer. -/
theorem waitFor_apply {α β : Type} (ask : β → StateM (Vigil × σ) (β ⊕ α)) (fuel : Nat) (b : β)
    (v : Vigil) (w : σ) :
    waitFor S ask fuel b (v, w) =
      match ask b (v.settled S w), fuel with
      | (.inr a, x), _ => (some a, x)
      | (.inl _, x), 0 => (none, x)
      | (.inl b, v, w), fuel + 1 =>
        match S.next? none w with
        | (some _, w) => waitFor S ask fuel b (v, w)
        | (none, w) => (none, v, w) := by
  cases fuel with
  | zero =>
      rw [waitFor]
      simp only [Act.bind_apply, settle_apply]
      rcases ask b (v.settled S w) with ⟨b' | a, x⟩ <;> rfl
  | succ fuel =>
      rw [waitFor]
      simp only [Act.bind_apply, settle_apply]
      rcases ask b (v.settled S w) with ⟨b' | a, v', w'⟩
      · simp only [Act.bind_apply, outside_apply]
        rcases S.next? none w' with ⟨_ | time, w''⟩ <;> rfl
      · rfl

/-- **A wait for an answer.** What the watcher's moves, an asking in vain and
the passing of time keep holds for as long as the wait lasts, and what an
asking ends in holds when there is an answer. -/
theorem waitFor_ends {α β : Type} {ask : β → StateM (Vigil × σ) (β ⊕ α)}
    {R : β → Vigil → σ → Prop} {Q : α → Vigil → σ → Prop}
    (watch : ∀ {b v w m}, R b v w → m ∈ v.moves S w → R b m.1 m.2)
    (pass : ∀ {b v w}, R b v w → R b v (S.next? none w).2)
    (again : ∀ {b v w b' v' w'}, R b v w → ask b (v, w) = (.inl b', v', w') → R b' v' w')
    (done : ∀ {b v w a v' w'}, R b v w → ask b (v, w) = (.inr a, v', w') → Q a v' w') :
    ∀ (fuel : Nat) {b v w}, R b v w → ∀ {r v' w'}, waitFor S ask fuel b (v, w) = (r, v', w') →
      r.elim (∃ b', R b' v' w') (Q · v' w') := by
  intro fuel
  induction fuel with
  | zero =>
      intro b v w h r v' w' hr
      have hs := settled_ends (P := R b) watch h
      rw [waitFor_apply] at hr
      rcases hask : ask b (v.settled S w) with ⟨b' | a, x⟩ <;> rw [hask] at hr <;> cases hr
      · exact ⟨b', again hs hask⟩
      · exact done hs hask
  | succ fuel ih =>
      intro b v w h r v' w' hr
      have hs := settled_ends (P := R b) watch h
      rw [waitFor_apply] at hr
      rcases hask : ask b (v.settled S w) with ⟨b' | a, v₁, w₁⟩ <;> rw [hask] at hr
      · have hp := pass (again hs hask)
        rcases hn : S.next? none w₁ with ⟨_ | time, w₂⟩ <;> simp only [hn] at hr hp
        · cases hr
          exact ⟨b', hp⟩
        · exact ih hp hr
      · cases hr
        exact done hs hask

/-- One round of a wait for a time to pass. -/
theorem passUntil_apply (done : Vigil → Bool) (fuel rest : Nat) (v : Vigil) (w : σ) :
    passUntil S done fuel rest (v, w) =
      if done (v.settled S w).1 then (true, v.settled S w)
      else match fuel with
        | 0 => (false, (v.settled S w).1, (S.sleep rest (v.settled S w).2).2)
        | fuel + 1 =>
          match S.next? (some rest) (v.settled S w).2 with
          | (some time, w') => passUntil S done fuel (rest - time) ((v.settled S w).1, w')
          | (none, w') => (false, (v.settled S w).1, (S.sleep rest w').2) := by
  rcases hs : v.settled S w with ⟨v₁, w₁⟩
  cases fuel with
  | zero =>
      rw [passUntil]
      simp only [Act.bind_apply, settle_apply, Act.get_apply, hs]
      by_cases hd : done v₁
      · simp [hd]
      · simp [hd]
  | succ fuel =>
      rw [passUntil]
      simp only [Act.bind_apply, settle_apply, Act.get_apply, hs]
      by_cases hd : done v₁
      · simp [hd]
      · rcases hn : S.next? (some rest) w₁ with ⟨_ | time, w₂⟩ <;> simp [hd, hn]

/-- **A wait for a time.** What the watcher's moves and the passing of time
keep holds at its end, and it tells whether the condition holds then. -/
theorem passUntil_ends {done : Vigil → Bool} {P : Vigil → σ → Prop}
    (watch : ∀ {v w m}, P v w → m ∈ v.moves S w → P m.1 m.2)
    (pass : ∀ {v w} (limit : Option Nat), P v w → P v (S.next? limit w).2)
    (sleep : ∀ {v w} (time : Nat), P v w → P v (S.sleep time w).2) :
    ∀ (fuel rest : Nat) {v w}, P v w → ∀ {r v' w'},
      passUntil S done fuel rest (v, w) = (r, v', w') → P v' w' ∧ done v' = r := by
  intro fuel
  induction fuel with
  | zero =>
      intro rest v w h r v' w' hr
      have hs := settled_ends watch h
      rw [passUntil_apply] at hr
      rcases hv : v.settled S w with ⟨v₁, w₁⟩
      rw [hv] at hr hs
      split at hr
      · next hd => cases hr; exact ⟨hs, hd⟩
      · next hd => cases hr; exact ⟨sleep rest hs, Bool.eq_false_iff.2 hd⟩
  | succ fuel ih =>
      intro rest v w h r v' w' hr
      have hs := settled_ends watch h
      rw [passUntil_apply] at hr
      rcases hv : v.settled S w with ⟨v₁, w₁⟩
      rw [hv] at hr hs
      split at hr
      · next hd => cases hr; exact ⟨hs, hd⟩
      · next hd =>
        have hp := pass (some rest) hs
        rcases hn : S.next? (some rest) w₁ with ⟨_ | time, w₂⟩ <;> simp only [hn] at hr hp
        · cases hr
          exact ⟨sleep rest hp, Bool.eq_false_iff.2 hd⟩
        · exact ih _ hp hr

/-! ## The waits of a session -/

section Waits

variable {R : Listener.Call → Vigil → σ → Prop} {P : Vigil → σ → Prop}

/-- **A call on the listener, to its end.** What the watcher's moves, the
call's own and the passing of time keep holds where the call stops; it stops
where it is over, unless there is no listener. -/
theorem await_advance_ends
    (watch : ∀ {c v w m}, R c v w → m ∈ v.moves S w → R c m.1 m.2)
    (pass : ∀ {c v w}, R c v w → R c v (S.next? none w).2)
    (move : ∀ {c v w l m}, R c v w → v.listener = some l → m ∈ c.moves S ownerId l w →
      R m.1 { v with listener := some m.2.1 } m.2.2)
    {c : Listener.Call} {v : Vigil} {w : σ} (h : R c v w) {r : Option Listener.Call} {v' : Vigil}
    {w' : σ} (hr : await S (advance S) c (v, w) = (r, v', w')) :
    r.elim (∃ c', R c' v' w') fun c' => R c' v' w' ∧ (v'.listener.isSome → c'.isOver = true) := by
  -- One asking runs the call as far as it can go.
  have hadv : ∀ {c : Listener.Call} {v : Vigil} {w : σ}, R c v w →
      ∀ {r v' w'}, advance S c (v, w) = (r, v', w') →
        r.elim (R · v' w') (fun c' => R c' v' w' ∧ (v'.listener.isSome → c'.isOver = true)) := by
    intro c v w h r v' w' hr
    rw [advance] at hr
    split at hr
    · next hl =>
        cases hr
        exact ⟨h, fun hs => by rw [hl] at hs; cases hs⟩
    · next l hl =>
        have hrun : R (c.run S ownerId l w).1 { v with listener := some (c.run S ownerId l w).2.1 }
            (c.run S ownerId l w).2.2 :=
          Listener.Call.run_ends (P := fun c l w => R c { v with listener := some l } w)
            (fun {_ l _ _} hR hm => move (v := { v with listener := some l }) hR rfl hm)
            (by rw [← hl]; exact h)
        simp only at hr
        split at hr
        · next hover => cases hr; exact ⟨hrun, fun _ => hover⟩
        · cases hr; exact hrun
  exact waitFor_ends (R := R) (Q := fun c' v w => R c' v w ∧ (v.listener.isSome → c'.isOver = true))
    watch pass (fun h ha => hadv h ha) (fun h ha => hadv h ha) _ h hr

/-- A wait for the termination. -/
theorem awaitTermination_ends (watch : ∀ {v w m}, P v w → m ∈ v.moves S w → P m.1 m.2)
    (pass : ∀ {v w} (limit : Option Nat), P v w → P v (S.next? limit w).2)
    (sleep : ∀ {v w} (time : Nat), P v w → P v (S.sleep time w).2)
    {limit : Nat} {v : Vigil} {w : σ} (h : P v w) {r : Bool} {v' : Vigil} {w' : σ}
    (hr : awaitTermination S limit (v, w) = (r, v', w')) :
    P v' w' ∧ v'.terminated = r :=
  passUntil_ends watch pass sleep _ _ h hr

/-- A wait for the watcher, which is over then and forgotten. -/
theorem join_ends (watch : ∀ {v w m}, P v w → m ∈ v.moves S w → P m.1 m.2)
    (pass : ∀ {v w}, P v w → P v (S.next? none w).2)
    {v : Vigil} {w : σ} (h : P v w) {r : Option Unit} {v' : Vigil} {w' : σ}
    (hr : join S (v, w) = (r, v', w')) :
    ∃ u, P u w' ∧ v' = { u with watcher := none } ∧
      (r.isSome → u.watcher.all (·.stage == .finished) = true) := by
  simp only [join, Act.bind_apply, Act.modify_apply, Act.pure_apply] at hr
  have hq : ∀ {b v w r v' w'}, askOver (σ := σ) b (v, w) = (r, v', w') →
      v' = v ∧ w' = w ∧ (r = .inr () → v.watcher.all (·.stage == .finished) = true) := by
    intro b v w r v' w' h
    simp only [askOver] at h
    split at h
    · next hd => cases h; exact ⟨rfl, rfl, fun _ => hd⟩
    · cases h; exact ⟨rfl, rfl, fun h => by cases h⟩
  rcases hw : await S askOver () (v, w) with ⟨r₁, u, w₁⟩
  rw [hw] at hr
  cases hr
  have hend := waitFor_ends (R := fun _ => P)
    (Q := fun _ v w => P v w ∧ v.watcher.all (·.stage == .finished) = true)
    watch pass (fun h ha => by obtain ⟨rfl, rfl, -⟩ := hq ha; exact h)
    (fun h ha => by obtain ⟨rfl, rfl, hd⟩ := hq ha; exact ⟨h, hd rfl⟩) _ h hw
  rcases r₁ with _ | a
  · obtain ⟨-, hP⟩ := hend
    exact ⟨u, hP, rfl, fun h => Bool.noConfusion h⟩
  · exact ⟨u, hend.1, rfl, fun _ => hend.2⟩

end Waits

end Vigil

end DeviceLink
