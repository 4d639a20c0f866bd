import DeviceLink.Connection
import DeviceLink.Proofs.Surroundings.Parallel
import DeviceLink.Proofs.Watcher.Waiting
import Mathlib.Data.List.Forall2
/-!
# Watchers — in two surroundings that agree

A watcher, a call on a listener and whatever waits beside them fare alike in
surroundings that agree: they make the same moves in the same order, so the
same vigil is left, and whoever waits finds the same. How waiting for a process
and a kill turn out is only reported.
-/

namespace DeviceLink

open Surroundings

variable {σ σ' : Type} {asked : Url → Prop} {S : Surroundings σ} {S' : Surroundings σ'}
variable {R : σ → σ' → Prop} {w : σ} {w' : σ'}

/-! ## Listeners -/

namespace Listener

theorem bind_parallel (h : Concord asked S S' R) (port : Port) :
    Trial.Parallel R (fun _ _ => True) Eq (bind S port) (bind S' port) :=
  Trial.Parallel.bind (h.listen port) fun hb => .pure (by rw [hb])

namespace Call

variable (id : Nat)

theorem moves_parallel (h : Concord asked S S' R) (hR : R w w') (c : Call) (l : Listener) :
    List.Forall₂ (Beside Call (Beside Listener R)) (c.moves S id l w) (c.moves S' id l w') := by
  have one : ∀ (c' : Call) (l' : Listener) {v : σ} {v' : σ'}, R v v' →
      List.Forall₂ (Beside Call (Beside Listener R)) [(c', l', v)] [(c', l', v')] :=
    fun _ _ _ _ hv => .cons ⟨rfl, rfl, hv⟩ .nil
  cases c with
  | queued =>
      simp only [moves]
      refine List.rel_append ?_ ?_
      · split
        · exact one _ _ hR
        · exact .nil
      · split
        · exact one _ _ hR
        · exact .nil
  | accepting =>
      simp only [moves]
      refine List.rel_append ?_ ?_
      · split
        · exact one _ _ hR
        · exact .nil
      · split
        · exact .nil
        obtain ⟨hr, hv⟩ := h.arrival l.bound hR
        rcases ha : S.arrival? l.bound w with ⟨r, v⟩
        rcases ha' : S'.arrival? l.bound w' with ⟨r', v'⟩
        simp only [ha, ha'] at hr hv
        subst hr
        rcases r with _ | (cause | stream)
        · exact .nil
        · exact one _ _ hv
        · exact one _ _ hv
  | closing =>
      simp only [moves]
      split
      · exact one _ _ hR
      · exact one _ _ hR
  | shutting => exact one _ _ hR
  | waiting =>
      simp only [moves]
      split
      · exact one _ _ hR
      · exact .nil
  | dropping => exact one _ _ (h.unlisten l.bound hR).2
  | accepted _ | refused _ | closed _ => exact .nil

/-- **A call on a listener**, run as far as it goes. -/
theorem run_parallel (h : Concord asked S S' R) (hR : R w w') (c : Call) (l : Listener) :
    Beside Call (Beside Listener R) (c.run S id l w) (c.run S' id l w') := by
  fun_induction Call.run S id c l w generalizing w' with
  | case1 c l w hm =>
      have hmoves := moves_parallel id h hR c l
      rw [hm, List.forall₂_nil_left_iff] at hmoves
      rw [run_of_moves hmoves]
      exact ⟨rfl, rfl, hR⟩
  | case2 c l w m rest hm _ ih =>
      have hmoves := moves_parallel id h hR c l
      rw [hm, List.forall₂_cons_left_iff] at hmoves
      obtain ⟨⟨c', l', v'⟩, rest', ⟨rfl, rfl, hv⟩, -, hm'⟩ := hmoves
      rw [run_cons hm']
      exact ih hv

end Call

end Listener

namespace Vigil

/-! ## The watcher -/

theorem noteFailure_parallel (h : Concord asked S S' R) (deed : String)
    (r r' : Except IoError Unit) :
    Act.Parallel R Eq (noteFailure S deed r) (noteFailure S' deed r') := by
  rcases r with e | ⟨⟩ <;> rcases r' with e' | ⟨⟩
  · exact h.reports _ _
  · exact h.reports_left _
  · exact h.reports_right _
  · exact .pure rfl

theorem noteWait_parallel (h : Concord asked S S' R) (r r' : Except IoError Unit) :
    Act.Parallel R Eq (noteWait S r) (noteWait S' r') := by
  rcases r with e | ⟨⟩ <;> rcases r' with e' | ⟨⟩
  · exact h.reports _ _
  · exact h.reports_left _
  · exact h.reports_right _
  · exact .pure rfl

theorem reap_parallel (h : Concord asked S S' R) (hR : R w w') (v : Vigil) (x : Watcher) :
    List.Forall₂ (Beside Vigil R) (v.reap S x w) (v.reap S' x w') := by
  obtain ⟨hr, hv⟩ := h.ended x.process hR
  rw [reap, reap]
  rcases he : S.ended? x.process w with ⟨r, u⟩
  rcases he' : S'.ended? x.process w' with ⟨r', u'⟩
  simp only [he, he'] at hr hv
  rcases r with _ | r <;> rcases r' with _ | r'
  · exact .nil
  · cases hr
  · cases hr
  · exact .cons ⟨rfl, (noteWait_parallel h r r' hv).2⟩ .nil

theorem movesOf_parallel (h : Concord asked S S' R) (hR : R w w') (v : Vigil) (x : Watcher) :
    List.Forall₂ (Beside Vigil R) (v.movesOf S x w) (v.movesOf S' x w') := by
  have one : ∀ (v' : Vigil) {u : σ} {u' : σ'}, R u u' →
      List.Forall₂ (Beside Vigil R) [(v', u)] [(v', u')] :=
    fun _ _ _ hu => .cons ⟨rfl, hu⟩ .nil
  simp only [movesOf]
  split
  · refine List.rel_append (reap_parallel h hR v x) ?_
    split
    · exact one _ hR
    · exact .nil
  · have hk := (h.kill x.process hR).2
    exact one _ (noteFailure_parallel h "kill" _ _ hk).2
  · exact reap_parallel h hR v x
  · exact one _ hR
  · split
    · next l hl =>
        split
        · exact one _ hR
        · refine List.rel_map ?_ (Listener.Call.moves_parallel watcherId h hR _ l)
          rintro ⟨c, l', u⟩ ⟨c', l'', u'⟩ ⟨rfl, rfl, hu⟩
          exact ⟨rfl, hu⟩
    · exact one _ hR
  · exact .nil

theorem moves_parallel (h : Concord asked S S' R) (hR : R w w') (v : Vigil) :
    List.Forall₂ (Beside Vigil R) (v.moves S w) (v.moves S' w') := by
  simp only [moves]
  split
  · exact movesOf_parallel h hR v _
  · exact .nil

/-- **The watcher**, left to itself. -/
theorem settled_parallel (h : Concord asked S S' R) (hR : R w w') (v : Vigil) :
    Beside Vigil R (v.settled S w) (v.settled S' w') := by
  fun_induction Vigil.settled S v w generalizing w' with
  | case1 v w hm =>
      have hmoves := moves_parallel h hR v
      rw [hm, List.forall₂_nil_left_iff] at hmoves
      rw [settled_of_moves hmoves]
      exact ⟨rfl, hR⟩
  | case2 v w m rest hm _ ih =>
      have hmoves := moves_parallel h hR v
      rw [hm, List.forall₂_cons_left_iff] at hmoves
      obtain ⟨⟨v', u'⟩, rest', ⟨rfl, hu⟩, -, hm'⟩ := hmoves
      rw [settled_cons hm']
      exact ih hu

/-! ## Waiting -/

theorem outside_parallel {α α' : Type} {Q : α → α' → Prop} {x : StateM σ α} {x' : StateM σ' α'}
    (hx : Act.Parallel R Q x x') :
    Act.Parallel (Beside Vigil R) Q (outside x) (outside x') := by
  rintro ⟨v, w⟩ ⟨_, w'⟩ ⟨rfl, hR⟩
  exact ⟨(hx hR).1, rfl, (hx hR).2⟩

theorem settle_parallel (h : Concord asked S S' R) :
    Act.Parallel (Beside Vigil R) Eq (settle S) (settle S') := by
  rintro ⟨v, w⟩ ⟨_, w'⟩ ⟨rfl, hR⟩
  exact ⟨rfl, settled_parallel h hR v⟩

theorem waitFor_parallel {α β : Type} (h : Concord asked S S' R)
    {ask : β → StateM (Vigil × σ) (β ⊕ α)} {ask' : β → StateM (Vigil × σ') (β ⊕ α)}
    (hask : ∀ b, Act.Parallel (Beside Vigil R) Eq (ask b) (ask' b)) (fuel : Nat) (b : β) :
    Act.Parallel (Beside Vigil R) Eq (waitFor S ask fuel b) (waitFor S' ask' fuel b) := by
  induction fuel generalizing b with
  | zero =>
      rw [waitFor, waitFor]
      refine .bind (settle_parallel h) fun _ => .bind (hask b) fun ha => ?_
      subst ha
      split
      · exact .pure rfl
      · exact .pure rfl
  | succ fuel ih =>
      rw [waitFor, waitFor]
      refine .bind (settle_parallel h) fun _ => .bind (hask b) fun ha => ?_
      subst ha
      split
      · exact .pure rfl
      · refine .bind (outside_parallel (h.next none)) fun hn => ?_
        subst hn
        split
        · exact ih _
        · exact .pure rfl

/-- **A wait for an answer.** -/
theorem await_parallel {α β : Type} (h : Concord asked S S' R)
    {ask : β → StateM (Vigil × σ) (β ⊕ α)} {ask' : β → StateM (Vigil × σ') (β ⊕ α)}
    (hask : ∀ b, Act.Parallel (Beside Vigil R) Eq (ask b) (ask' b)) (b : β) :
    Act.Parallel (Beside Vigil R) Eq (await S ask b) (await S' ask' b) := by
  rintro ⟨v, w⟩ ⟨_, w'⟩ ⟨rfl, hR⟩
  change _ = (waitFor S' ask' (S'.horizon w') b (v, w')).1 ∧
    Beside Vigil R _ (waitFor S' ask' (S'.horizon w') b (v, w')).2
  rw [← h.horizon hR]
  exact waitFor_parallel h hask (S.horizon w) b (.of v hR)

theorem passUntil_parallel (h : Concord asked S S' R) (done : Vigil → Bool) (fuel rest : Nat) :
    Act.Parallel (Beside Vigil R) Eq (passUntil S done fuel rest) (passUntil S' done fuel rest) := by
  have now : Act.Parallel (Beside Vigil R) (fun x x' => x.1 = x'.1)
      (get : StateM (Vigil × σ) _) (get : StateM (Vigil × σ') _) :=
    fun _ _ hx => ⟨hx.1, hx⟩
  induction fuel generalizing rest with
  | zero =>
      refine .bind (settle_parallel h) fun _ => .bind now fun {x x'} hx => ?_
      obtain ⟨v, w⟩ := x
      obtain ⟨v', w'⟩ := x'
      obtain rfl : v = v' := hx
      simp only
      split
      · exact .pure rfl
      · exact .bind (outside_parallel (h.sleep rest)) fun _ => .pure rfl
  | succ fuel ih =>
      refine .bind (settle_parallel h) fun _ => .bind now fun {x x'} hx => ?_
      obtain ⟨v, w⟩ := x
      obtain ⟨v', w'⟩ := x'
      obtain rfl : v = v' := hx
      simp only
      split
      · exact .pure rfl
      · refine .bind (outside_parallel (h.next (some rest))) fun hn => ?_
        subst hn
        split
        · exact ih _
        · exact .bind (outside_parallel (h.sleep rest)) fun _ => .pure rfl

theorem awaitTermination_parallel (h : Concord asked S S' R) (limit : Nat) :
    Act.Parallel (Beside Vigil R) Eq (awaitTermination S limit) (awaitTermination S' limit) := by
  rintro ⟨v, w⟩ ⟨_, w'⟩ ⟨rfl, hR⟩
  change _ = (passUntil S' (·.terminated) (S'.horizon w') limit (v, w')).1 ∧
    Beside Vigil R _ (passUntil S' (·.terminated) (S'.horizon w') limit (v, w')).2
  rw [← h.horizon hR]
  exact passUntil_parallel h (·.terminated) (S.horizon w) limit (.of v hR)

theorem pause_parallel (h : Concord asked S S' R) (time : Nat) :
    Act.Parallel (Beside Vigil R) Eq (pause S time) (pause S' time) := by
  rintro ⟨v, w⟩ ⟨_, w'⟩ ⟨rfl, hR⟩
  change _ = () ∧ Beside Vigil R _ (passUntil S' (fun _ => false) (S'.horizon w') time (v, w')).2
  rw [← h.horizon hR]
  exact ⟨rfl, (passUntil_parallel h (fun _ => false) (S.horizon w) time (.of v hR)).2⟩

theorem advance_parallel (h : Concord asked S S' R) (c : Listener.Call) :
    Act.Parallel (Beside Vigil R) Eq (advance S c) (advance S' c) := by
  rintro ⟨v, w⟩ ⟨_, w'⟩ ⟨rfl, hR⟩
  simp only [advance]
  rcases v.listener with _ | l
  · exact ⟨rfl, rfl, hR⟩
  · obtain ⟨hc, hl, hu⟩ := Listener.Call.run_parallel ownerId h hR c l
    simp only [hc, hl]
    exact ⟨trivial, rfl, hu⟩

theorem accept_parallel (h : Concord asked S S' R) :
    Act.Parallel (Beside Vigil R) Eq (accept S) (accept S') := by
  refine .bind (await_parallel h (advance_parallel h) .queued) fun hr => ?_
  subst hr
  split
  · exact .pure rfl
  · exact .pure rfl
  · exact .pure rfl

theorem closeListener_parallel (h : Concord asked S S' R) :
    Act.Parallel (Beside Vigil R) Eq (closeListener S) (closeListener S') := by
  refine .bind (await_parallel h (advance_parallel h) .closing) fun hr => ?_
  subst hr
  split
  · exact .pure rfl
  · exact .pure rfl
  · exact .pure rfl

theorem join_parallel (h : Concord asked S S' R) :
    Act.Parallel (Beside Vigil R) Eq (join S) (join S') := by
  have hask : ∀ b, Act.Parallel (Beside Vigil R) Eq (askOver (σ := σ) b) (askOver (σ := σ') b) := by
    rintro b ⟨v, w⟩ ⟨_, w'⟩ ⟨rfl, hR⟩
    exact ⟨rfl, rfl, hR⟩
  refine .bind (await_parallel h hask ()) fun hr => .bind (Q := Eq) ?_ fun _ => .pure hr
  rintro ⟨v, w⟩ ⟨_, w'⟩ ⟨rfl, hR⟩
  exact ⟨rfl, rfl, hR⟩

end Vigil

/-! ## Connections -/

namespace Connection

variable {α : Type}

/-- An attempt to connect, in parallel: a failure is the same as well. -/
abbrev Parallel (R : σ → σ' → Prop) (x : Attempt σ α) (x' : Attempt σ' α) : Prop :=
  Trial.Parallel (Beside Vigil R) Eq Eq x x'

theorem act_parallel {x : StateM σ α} {x' : StateM σ' α} (hx : Act.Parallel R Eq x x') :
    Connection.Parallel R (act x) (act x') := .lift (Vigil.outside_parallel hx)

theorem readByte_parallel (h : Concord asked S S' R) (x : Stream) :
    Act.Parallel (Beside Vigil R) Eq (readByte S x) (readByte S' x) := by
  refine Vigil.await_parallel h (fun _ => ?_) ()
  refine .bind (Vigil.outside_parallel (h.readByte x)) fun hr => ?_
  subst hr
  split
  · exact .pure rfl
  · exact .pure rfl

theorem probeOnce_parallel (h : Concord asked S S' R) (e : Endpoint) :
    Connection.Parallel R (probeOnce S e) (probeOnce S' e) := by
  refine .bind (act_parallel (h.connect e)) fun hr => ?_
  subst hr
  split
  · exact .pure rfl
  · refine .bind (.lift (readByte_parallel h _)) fun hb => ?_
    subst hb
    split
    · exact .pure rfl
    · exact .bind (act_parallel (h.close _)) fun _ => .pure rfl
    · exact .throw rfl

theorem attempts_parallel (h : Concord asked S S' R) (e : Endpoint) (policy : RetryPolicy)
    (left : Nat) :
    Connection.Parallel R (attempts S e policy left) (attempts S' e policy left) := by
  induction left with
  | zero => exact .throw rfl
  | succ left ih =>
      refine .bind (probeOnce_parallel h e) fun hr => ?_
      subst hr
      split
      · exact .pure rfl
      · split
        · exact .bind (.lift (Vigil.pause_parallel h _)) fun _ => ih
        · exact ih

theorem probe_parallel (h : Concord asked S S' R) (e : Endpoint) (policy : RetryPolicy) :
    Connection.Parallel R (probe S e policy) (probe S' e policy) := attempts_parallel h e policy _

theorem connect_parallel (h : Concord asked S S' R) (e : Endpoint) :
    Connection.Parallel R (connect S e) (connect S' e) := by
  refine .bind (act_parallel (h.connect e)) fun hr => ?_
  subst hr
  split
  · exact .pure rfl
  · exact .throw rfl

theorem accept_parallel (h : Concord asked S S' R) :
    Connection.Parallel R (accept S) (accept S') := by
  refine .bind (.lift (Vigil.accept_parallel h)) fun hr => ?_
  subst hr
  split
  · exact .pure rfl
  · exact .throw rfl
  · exact .throw rfl

end Connection

end DeviceLink
