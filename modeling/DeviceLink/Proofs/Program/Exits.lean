import DeviceLink.Program.Run
import DeviceLink.Proofs.Session.Tracking
/-!
# Programs — every exit takes the session down

A run of a session ends in one of three ways (`Exits`): the start fails and the
session is given up; the connect fails, and it is stopped and given up; or its
channels are held until the video ends or the user interrupts, and then it is
stopped and given up as well. Whatever the surroundings do, nothing is left
behind on any of these ways (`session_takes_down`).
-/

namespace DeviceLink

open Session Trace Surroundings

variable {σ : Type}

/-- The desk with a trace of what is done to the surroundings of its sessions.
What is shown and what is done to files is not written down. -/
def Desk.traced (D : Desk σ) : Desk (σ × Trace) where
  surroundings tool := (D.surroundings tool).traced
  present channel text := noted (D.present channel text) fun _ => []
  listenTo filter := noted (D.listenTo filter) fun _ => []
  files := noted D.files fun _ => []
  replaceFiles files := noted (D.replaceFiles files) fun _ => []

namespace Program

/-! ## Parts of a run -/

namespace Part

@[simp] theorem outside_apply {α : Type} (act : StateM σ α) (s : Session) (w : σ) :
    Part.outside act (s, w) = (.ok (act w).1, s, (act w).2) := rfl

@[simp] theorem call_apply {α : Type} (c : Call σ α) (y : Session × σ) :
    Part.call c y = (.ok (c y).1, (c y).2) := rfl

theorem surely_apply (c : Call σ Unit) (y : Session × σ) :
    Part.surely c y = match c y with
      | (.error .stuck, z) => (.error .stuck, z)
      | (_, z) => (.ok (), z) := by
  simp only [Part.surely, Trial.bind_apply, call_apply]
  rcases c y with ⟨(_ | _) | _, z⟩ <;> rfl

/-- A call that is made surely has its end, whatever its outcome. -/
theorem surely_ends {c : Call σ Unit} {y z : Session × σ} {r : Except (Halt Failure) Unit}
    (h : Part.surely c y = (r, z)) (hr : r ≠ .error .stuck) :
    ∃ q, c y = (q, z) ∧ q ≠ .error .stuck ∧ r = .ok () := by
  rw [surely_apply] at h
  rcases hc : c y with ⟨(e | _) | ⟨⟩, z₁⟩ <;> rw [hc] at h <;> cases h
  · exact ⟨_, rfl, by simp, rfl⟩
  · exact absurd rfl hr
  · exact ⟨_, rfl, by simp, rfl⟩

/-- What follows it goes on from there. -/
theorem surely_bind {α : Type} {c : Call σ Unit} {f : Unit → Part σ α} {y z : Session × σ}
    {r : Except (Halt Failure) α} (h : (Part.surely c >>= f) y = (r, z))
    (hr : r ≠ .error .stuck) : ∃ q z₁, c y = (q, z₁) ∧ q ≠ .error .stuck ∧ f () z₁ = (r, z) := by
  rw [Trial.bind_apply] at h
  rcases hc : Part.surely c y with ⟨g, z₁⟩
  rw [hc] at h
  by_cases hg : g = .error .stuck
  · subst hg
    cases h
    exact absurd rfl hr
  · obtain ⟨q, hq, hne, rfl⟩ := surely_ends hc hg
    exact ⟨q, z₁, hq, hne, h⟩

theorem orElse_apply {α : Type} (context : String) (c : Call σ α) (giveUp : Part σ Unit)
    (y : Session × σ) :
    Part.orElse context c giveUp y = match c y with
      | (.ok a, z) => (.ok a, z)
      | (.error .stuck, z) => (.error .stuck, z)
      | (.error (.failed e), z) => match giveUp z with
        | (.ok (), z) => (.error (.failed ⟨context, e.causes⟩), z)
        | (.error h, z) => (.error h, z) := by
  simp only [Part.orElse, Trial.bind_apply, call_apply]
  rcases c y with ⟨(e | _) | a, z⟩
  · dsimp only
    rw [Trial.bind_apply]
    rcases giveUp z with ⟨_ | _, z'⟩ <;> rfl
  · rfl
  · rfl

/-- What follows a call goes on from its end, unless it fails and the session is given up. -/
theorem orElse_bind {α β : Type} {context : String} {c : Call σ α} {giveUp : Part σ Unit}
    {f : α → Part σ β} {y z : Session × σ} {r : Except (Halt Failure) β}
    (h : (Part.orElse context c giveUp >>= f) y = (r, z)) (hr : r ≠ .error .stuck) :
    (∃ a z₁, c y = (.ok a, z₁) ∧ f a z₁ = (r, z)) ∨
      ∃ e z₁ g, c y = (.error (.failed e), z₁) ∧ giveUp z₁ = (g, z) ∧ g ≠ .error .stuck ∧
        (g = .ok () → r = .error (.failed ⟨context, e.causes⟩)) := by
  rw [Trial.bind_apply, orElse_apply] at h
  rcases hc : c y with ⟨(e | _) | a, z₁⟩ <;> rw [hc] at h
  · rcases hg : giveUp z₁ with ⟨g | ⟨⟩, z₂⟩
    · simp only [hg] at h
      cases h
      refine .inr ⟨e, z₁, _, rfl, hg, fun heq => hr ?_, nofun⟩
      cases heq
      rfl
    · simp only [hg] at h
      cases h
      exact .inr ⟨e, z₁, _, rfl, hg, by simp, fun _ => rfl⟩
  · cases h
    exact absurd rfl hr
  · exact .inl ⟨a, z₁, rfl, h⟩

end Part

section

variable {S : Surroundings σ} {D : Desk σ}

@[simp] theorem traced_notify (n : Notice) (text : String) (w : σ) (t : Trace) :
    D.traced.notify n text (w, t) = ((), (D.notify n text w).2, t) := by
  simp [Desk.notify, Desk.traced, noted]

/-- **A wait beside a session** keeps its books, if an asking tells nothing but
what is drained. -/
theorem wait_tracked {α : Type} {ask : Unit → StateM (Vigil × σ × Trace) (Unit ⊕ α)}
    (hask : ∀ {v y a v' y'}, ask () (v, y) = (a, v', y') →
      v' = v ∧ ∃ es, y'.2 = y.2 ++ es ∧ ∀ e ∈ es, ∃ stream count, e = .drained stream count)
    {s s' : Session} {x x' : σ × Trace} {handed : List Stream} {r : Except (Halt SessionError) α}
    (h : Tracked s x handed)
    (hr : Session.waiting (Vigil.await S.traced ask ()) (s, x) = (r, s', x')) :
    (∃ v, s' = { s with vigil := v }) ∧ Tracked s' x' handed ∧ Quietly x.2 x'.2 := by
  rw [waiting_apply] at hr
  rcases hw : Vigil.await S.traced ask () (s.vigil, x) with ⟨a, v, y⟩
  rw [hw] at hr
  cases hr
  let R (v : Vigil) (y : σ × Trace) : Prop :=
    Tracked { s with vigil := v } y handed ∧ Quietly x.2 y.2
  have hasked : ∀ {v y a v' y'}, R v y → ask () (v, y) = (a, v', y') → R v' y' := by
    intro v y a v' y' hR ha
    obtain ⟨rfl, es, hes, hdrained⟩ := hask ha
    have hquiet : es.Quiet := fun e he => by obtain ⟨_, _, rfl⟩ := hdrained e he; rfl
    have hnil : ∀ {β : Type} {f : Event → Option β},
        (∀ stream count, f (.drained stream count) = none) → es.filterMap f = [] := fun hf =>
      List.filterMap_eq_nil_iff.2 fun e he => by obtain ⟨_, _, rfl⟩ := hdrained e he; exact hf _ _
    refine ⟨hR.1.quietly hes hquiet ?_ ?_, hR.2.trans ⟨es, hes, hquiet⟩⟩
    · exact ⟨⟨hnil fun _ _ => rfl, hnil fun _ _ => rfl⟩, hnil fun _ _ => rfl, hnil fun _ _ => rfl,
        hnil fun _ _ => rfl⟩
    · rw [Trace.closed, hnil fun _ _ => rfl]
      exact .refl _
  have hend := Vigil.waitFor_ends (R := fun _ => R) (Q := fun _ => R)
    (fun hR hm => ⟨hR.1.watch hm, hR.2.trans (Vigil.quietly_of_mem_moves hm)⟩)
    (fun {_ v y} hR => ⟨hR.1.pass S _ (S.next? none y.1).1.toList,
      hR.2.trans (quietly_next? (S := S) (w := y.1) none)⟩)
    hasked hasked _ (⟨h, Quietly.refl _⟩ : R s.vigil x) hw
  have hR : R v y := by
    cases a with
    | none => obtain ⟨_, hR⟩ := hend; exact hR
    | some _ => exact hend
  exact ⟨⟨v, rfl⟩, hR⟩

/-- **Holding the channels** closes both, whether the video ends or the user
interrupts. -/
theorem hold_tracked {video control : Stream} {s s' : Session} {x x' : σ × Trace}
    {r : Except (Halt Failure) Unit} (h : Tracked s x [video, control])
    (hr : hold D.traced S.traced video control (s, x) = (r, s', x')) :
    r = .ok () ∧ (∃ v, s' = { s with vigil := v }) ∧ Tracked s' x' [] ∧ Quietly x.2 x'.2 := by
  obtain ⟨w, t⟩ := x
  simp only [hold, Trial.bind_apply, Part.outside_apply, Part.call_apply, traced_notify] at hr
  generalize (D.notify _ _ w).2 = w₁ at hr
  rcases hw : Session.waiting _ (s, w₁, t) with ⟨q, s₁, w₂, t₂⟩
  rw [hw] at hr
  have hwait := wait_tracked ?hask (h.tell w₁) hw
  case hask =>
    -- An asking drains the video, or finds it still open.
    intro v y a v' y' ha
    simp only [Act.bind_apply, Vigil.outside_apply] at ha
    rcases hd : S.traced.drain? video y with ⟨found, y₁⟩
    have hy : y₁.2 = y.2 ++ found.toList.map (.drained video) := by
      obtain ⟨rfl, rfl⟩ := Prod.ext_iff.1 hd
      rfl
    rw [hd] at ha
    rcases found with _ | count <;> cases ha
    · exact ⟨rfl, _, hy, by simp⟩
    · exact ⟨rfl, _, hy, by simp⟩
  obtain ⟨hv, htracked, hquiet⟩ := hwait
  -- Both ends are told, and then the channels are closed.
  have hclosed : ∀ w' : σ, Tracked s₁ (w', t₂ ++ [.close control] ++ [.close video]) [] ∧
      Quietly t (t₂ ++ [.close control] ++ [.close video]) := by
    intro w'
    have hq : Quiet [.close control, .close video] := quiet_map (fun _ => rfl) [control, video]
    rw [List.append_assoc]
    refine ⟨htracked.quietly rfl hq ⟨⟨rfl, rfl⟩, rfl, rfl, rfl⟩ ?_,
      hquiet.trans (quietly_append hq)⟩
    exact List.Perm.swap control video []
  rcases q with e | count
  · simp only [Part.outside_apply, Trial.bind_apply, traced_info, traced_close] at hr
    cases hr
    exact ⟨rfl, hv, hclosed _⟩
  · simp only [Part.outside_apply, Trial.bind_apply, traced_info, traced_close] at hr
    cases hr
    exact ⟨rfl, hv, hclosed _⟩

theorem hold_ok (video control : Stream) (y : Session × σ × Trace) :
    (hold D.traced S.traced video control y).1 = .ok () := by
  obtain ⟨s, w, t⟩ := y
  simp only [hold, Trial.bind_apply, Part.outside_apply, Part.call_apply, traced_notify]
  rcases Session.waiting _ _ with ⟨_ | _, _, _, _⟩ <;> rfl

/-! ## Exits -/

/-- **How a run ends**, unless it waits for something that never happens. -/
inductive Exits (D : Desk σ) (S : Surroundings σ) (artifact : String) (serial : Option String)
    (p : Params) (x : σ × Trace) : Except (Halt Failure) Unit → Session → σ × Trace → Prop
  /-- The start fails, and the session is given up. -/
  | unstarted {e : SessionError} {r : Except (Halt SessionError) Unit} {s s' : Session}
      {y y' : σ × Trace} :
      start S.traced artifact serial p ({}, x) = (.error (.failed e), s, y) →
      destroy S.traced (s, y) = (r, s', y') → r ≠ .error .stuck →
      Exits D S artifact serial p x
        (.error (.failed ⟨"Could not start the session", e.causes⟩)) s' y'
  /-- The connect fails, and the session is stopped and given up. -/
  | unconnected {e : SessionError} {r r' : Except (Halt SessionError) Unit}
      {s s₁ s₂ s' : Session} {y y₁ y₂ y' : σ × Trace} :
      start S.traced artifact serial p ({}, x) = (.ok (), s, y) →
      connect S.traced (s, y) = (.error (.failed e), s₁, y₁) →
      stop S.traced (s₁, y₁) = (r, s₂, y₂) → r ≠ .error .stuck →
      destroy S.traced (s₂, y₂) = (r', s', y') → r' ≠ .error .stuck →
      Exits D S artifact serial p x
        (.error (.failed ⟨"Could not connect to the device", e.causes⟩)) s' y'
  /-- The channels are taken and held, if there are any, and the session is
  stopped and given up. -/
  | held {r r' : Except (Halt SessionError) Unit} {q : Option (Stream × Stream)}
      {s s₁ s₂ s₃ s₄ s' : Session} {y y₄ : σ × Trace} {w₁ w₂ w₃ w₅ w' : σ} {t₁ t₃ t' : Trace} :
      start S.traced artifact serial p ({}, x) = (.ok (), s, y) →
      connect S.traced (s, y) = (.ok (), s₁, w₁, t₁) →
      takeChannels (s₁, w₂, t₁) = (.ok q, s₂, w₂, t₁) →
      (∀ c, q = some c → hold D.traced S.traced c.1 c.2 (s₂, w₂, t₁) = (.ok (), s₃, w₃, t₃)) →
      (q = none → s₃ = s₂ ∧ t₃ = t₁) →
      stop S.traced (s₃, w₃, t₃) = (r, s₄, y₄) → r ≠ .error .stuck →
      destroy S.traced (s₄, y₄) = (r', s', w₅, t') → r' ≠ .error .stuck →
      Exits D S artifact serial p x (.ok ()) s' (w', t')

/-- What is left of a run once there is nothing to hold any more. -/
theorem closing_ends {s s' : Session} {w w' : σ} {t t' : Trace} {r : Except (Halt Failure) Unit}
    (hr : (do
        Part.surely (stop S.traced)
        Part.surely (destroy S.traced)
        Part.outside (D.traced.notify .hint "Session closed") : Part (σ × Trace) Unit)
          (s, w, t) = (r, s', w', t'))
    (hstuck : r ≠ .error .stuck) :
    ∃ q s₁ y₁ q' w₁, r = .ok () ∧ stop S.traced (s, w, t) = (q, s₁, y₁) ∧ q ≠ .error .stuck ∧
      destroy S.traced (s₁, y₁) = (q', s', w₁, t') ∧ q' ≠ .error .stuck := by
  obtain ⟨q, ⟨s₁, y₁⟩, hs, hq, hr⟩ := Part.surely_bind hr hstuck
  obtain ⟨q', ⟨s₂, w₂, t₂⟩, hd, hq', hr⟩ := Part.surely_bind hr hstuck
  simp only [Part.outside_apply, traced_notify] at hr
  cases hr
  exact ⟨q, s₁, y₁, q', w₂, rfl, hs, hq, hd, hq'⟩

/-- **All there is to a run.** -/
theorem session_exits {artifact : String} {serial : Option String} {p : Params}
    {x x' : σ × Trace} {r : Except (Halt Failure) Unit} {s' : Session}
    (hr : session D.traced S.traced artifact serial p ({}, x) = (r, s', x'))
    (hstuck : r ≠ .error .stuck) : Exits D S artifact serial p x r s' x' := by
  rw [session] at hr
  obtain ⟨⟨⟩, ⟨s, y⟩, hstart, hr⟩ | ⟨e, ⟨s, y⟩, g, hstart, hgive, hg, hfailed⟩ :=
    Part.orElse_bind hr hstuck
  swap
  · obtain ⟨q, hd, hq, rfl⟩ := Part.surely_ends hgive hg
    obtain rfl := hfailed rfl
    exact .unstarted hstart hd hq
  obtain ⟨⟨⟩, ⟨s₁, w₁, t₁⟩, hconnect, hr⟩ | ⟨e, ⟨s₁, y₁⟩, g, hconnect, hgive, hg, hfailed⟩ :=
    Part.orElse_bind hr hstuck
  swap
  · obtain ⟨q, ⟨s₂, y₂⟩, hs, hq, hgive⟩ := Part.surely_bind hgive hg
    obtain ⟨q', hd, hq', rfl⟩ := Part.surely_ends hgive hg
    obtain rfl := hfailed rfl
    exact .unconnected hstart hconnect hs hq hd hq'
  rw [Trial.bind_apply] at hr
  dsimp only at hr
  rw [Trial.bind_apply, Part.outside_apply, traced_notify] at hr
  dsimp only at hr
  generalize (D.notify .success _ w₁).2 = w₂ at hr
  rw [Trial.bind_apply, Part.call_apply] at hr
  obtain ⟨w', t'⟩ := x'
  rcases takeChannels_gives s₁ (w₂, t₁) with htake | ⟨video, control, -, -, htake⟩
  · simp only [htake] at hr
    rw [Trial.bind_apply, Part.outside_apply, traced_notify] at hr
    obtain ⟨q, s₄, y₄, q', w₅, rfl, hs, hq, hd, hq'⟩ := closing_ends hr hstuck
    exact .held hstart hconnect htake (fun _ h => nomatch h) (fun _ => ⟨rfl, rfl⟩) hs hq hd hq'
  · simp only [htake] at hr
    rw [Trial.bind_apply] at hr
    rcases hh : hold D.traced S.traced video control
      ({ s₁ with video := none, control := none }, w₂, t₁) with ⟨q, s₃, w₃, t₃⟩
    obtain rfl : q = .ok () := by
      have hok := hold_ok (D := D) (S := S) video control
        ({ s₁ with video := none, control := none }, w₂, t₁)
      rwa [hh] at hok
    rw [hh] at hr
    obtain ⟨q, s₄, y₄, q', w₅, rfl, hs, hq, hd, hq'⟩ := closing_ends hr hstuck
    exact .held hstart hconnect htake (fun _ h => Option.some.inj h ▸ hh) (fun h => nomatch h)
      hs hq hd hq'

/-- **A run that succeeds** is one whose start and connect do. -/
theorem Exits.ok_iff {artifact : String} {serial : Option String} {p : Params}
    {x x' : σ × Trace} {r : Except (Halt Failure) Unit} {s' : Session}
    (h : Exits D S artifact serial p x r s' x') :
    r = .ok () ↔ (start S.traced artifact serial p ({}, x)).1 = .ok () ∧
      (connect S.traced (start S.traced artifact serial p ({}, x)).2).1 = .ok () := by
  cases h with
  | unstarted hstart _ _ => simp [hstart]
  | unconnected hstart hconnect _ _ _ _ => simp [hstart, hconnect]
  | held hstart hconnect _ _ _ _ _ _ _ => simp [hstart, hconnect]

/-- A session that has been given up, with nothing left to settle. -/
structure GivenUp (p : Params) (s : Session) (x : σ × Trace) : Prop where
  tracked : Tracked s x []
  destroyed : s.phase = .destroyed
  disabled : s.tunnelEnabled = false
  settles : p.Settles x.2.asked

/-- Giving a session up that owes nothing leaves it so. -/
theorem GivenUp.of_destroy {p : Params} {s s' : Session} {y y' : σ × Trace}
    {q : Except (Halt SessionError) Unit} (h : Tracked s y []) (hoff : s.tunnelEnabled = false)
    (hsettles : p.Settles y.2.asked) (hd : destroy S.traced (s, y) = (q, s', y'))
    (hq : q ≠ .error .stuck) : GivenUp p s' y' := by
  obtain ⟨hquiet, henabled, -⟩ := destroy_quietly hd hq
  have hgone : Course S ⟨s, .free (.ok ()), y, []⟩ ⟨s', .free q, y', []⟩ ∧
    s'.phase = .destroyed := destroy_course hd hq
  exact ⟨h.destroy hd hq, hgone.2, henabled.trans hoff, hquiet.asked.symm ▸ hsettles⟩

/-- So does stopping it first, when it runs. -/
theorem GivenUp.of_stop {p : Params} {s s₁ s' : Session} {y y₁ y' : σ × Trace}
    {q q' : Except (Halt SessionError) Unit} (h : Tracked s y [])
    (hp : s.phase = .started ∨ s.phase = .connected) (howes : Owes p s.activator y.2.asked)
    (hs : stop S.traced (s, y) = (q, s₁, y₁)) (hq : q ≠ .error .stuck)
    (hd : destroy S.traced (s₁, y₁) = (q', s', y')) (hq' : q' ≠ .error .stuck) :
    GivenUp p s' y' := by
  obtain ⟨-, hoff, hsettles⟩ := stop_settles hp h.balanced.placed howes hs hq
  exact .of_destroy (h.stop hs hq) hoff hsettles hd hq'

/-- A session whose channels are held owes what it did before, and has closed them. -/
theorem held_tracked {s₁ s₂ s₃ : Session} {w₂ w₃ : σ} {t₁ t₃ : Trace}
    {q : Option (Stream × Stream)} (h : Tracked s₁ (w₂, t₁) [])
    (htake : takeChannels (s₁, w₂, t₁) = (.ok q, s₂, w₂, t₁))
    (hhold : ∀ c, q = some c →
      hold D.traced S.traced c.1 c.2 (s₂, w₂, t₁) = (.ok (), s₃, w₃, t₃))
    (hnone : q = none → s₃ = s₂ ∧ t₃ = t₁) :
    Tracked s₃ (w₃, t₃) [] ∧ s₃.phase = s₁.phase ∧ s₃.activator = s₁.activator ∧
      t₃.asked = t₁.asked := by
  have ht := h.take S htake
  rcases takeChannels_gives s₁ (w₂, t₁) with heq | ⟨video, control, -, -, heq⟩
  · cases heq.symm.trans htake
    obtain ⟨rfl, rfl⟩ := hnone rfl
    exact ⟨ht.tell w₃, rfl, rfl, rfl⟩
  · cases heq.symm.trans htake
    obtain ⟨-, ⟨v, rfl⟩, ht₃, hquiet⟩ := hold_tracked ht (hhold _ rfl)
    exact ⟨ht₃, rfl, rfl, hquiet.asked⟩

/-- **Every exit leaves the books settled**, and the session given up. -/
theorem Exits.givenUp {artifact : String} {serial : Option String} {p : Params} {w : σ}
    {x' : σ × Trace} {r : Except (Halt Failure) Unit} {s' : Session}
    (h : Exits D S artifact serial p (w, []) r s' x') : GivenUp p s' x' := by
  cases h with
  | unstarted hstart hd hq =>
      have ht := (tracked_new w).start hstart
      obtain ⟨_, -, -, hoff, hsettles⟩ | ⟨hok, -⟩ := start_owes hstart
      · exact .of_destroy ht hoff hsettles hd hq
      · cases hok
  | unconnected hstart hconnect hs hq hd hq' =>
      have ht := ((tracked_new w).start hstart).connect hconnect (by simp)
      obtain ⟨_, herr, -⟩ | ⟨-, hp, howes⟩ := start_owes hstart
      · cases herr
      · obtain ⟨hp, howes⟩ := connect_owes hp howes hconnect (by simp)
        exact .of_stop ht hp howes hs hq hd hq'
  | @held _ _ _ _ s₁ _ s₃ _ _ _ _ _ w₂ w₃ w₅ w' t₁ t₃ t' hstart hconnect htake hhold hnone
      hs hq hd hq' =>
      have ht := ((tracked_new w).start hstart).connect hconnect (by simp)
      obtain ⟨_, herr, -⟩ | ⟨-, hp, howes⟩ := start_owes hstart
      · cases herr
      obtain ⟨hp, howes⟩ := connect_owes hp howes hconnect (by simp)
      obtain ⟨ht₃, hphase, hactivator, hasked⟩ := held_tracked (ht.tell w₂) htake hhold hnone
      have howes₃ : Owes p s₃.activator t₃.asked := by
        rw [hactivator, hasked]
        exact howes
      have hgone := GivenUp.of_stop ht₃ (hphase ▸ hp) howes₃ hs hq hd hq'
      exact ⟨hgone.tracked.tell w', hgone.destroyed, hgone.disabled, hgone.settles⟩

/-- **Every exit takes the session down**, whatever the parameters and whatever
the surroundings do, unless a call waits for something that never happens. The
run fails exactly where its start or its connect does. And in all cases every
mapping that was made has had its removal asked for, once; every process that
was run has ended and was waited for; every connection and every port that was
listened on is closed; and the request that started an agent at an endpoint was
followed by one to stop it there. -/
theorem session_takes_down (D : Desk σ) (S : Surroundings σ) (artifact : String)
    (serial : Option String) (p : Params) (w : σ) {r : Except (Halt Failure) Unit} {s : Session}
    {x : σ × Trace}
    (h : session D.traced S.traced artifact serial p ({}, w, []) = (r, s, x))
    (hstuck : r ≠ .error .stuck) :
    (r = .ok () ↔ (start S.traced artifact serial p ({}, w, [])).1 = .ok () ∧
      (connect S.traced (start S.traced artifact serial p ({}, w, [])).2).1 = .ok ()) ∧
    (x.2.Accounted false ∧ ∀ i, x.2.MadeAt i → ∃! j, x.2.RemovedAt i j) ∧
    x.2.ran.Perm x.2.reaped ∧
    (x.2.opened.Perm x.2.closed ∧ x.2.bound.Perm x.2.freed) ∧
    (x.2.asked = [] ∨ ∃ a u v, p.Names a ∧ a.target? (Agent.startPath p) = some u ∧
      a.target? Agent.stopPath = some v ∧ x.2.asked = [u, v]) := by
  have hexits := session_exits h hstuck
  obtain ⟨ht, hphase, hoff, hsettles⟩ := hexits.givenUp
  have hover : s.isOver = true := by rw [isOver, hphase]; rfl
  obtain ⟨haccounted, hprocesses, hstreams, hports⟩ := ht.over hover hoff
  refine ⟨hexits.ok_iff, ⟨haccounted, fun i hi => ?_⟩, hprocesses, ⟨hstreams, hports⟩, hsettles⟩
  exact haccounted.once i hi fun hin => Bool.false_ne_true (haccounted.held_iff.2 ⟨i, hin⟩)

/-- A desk where nothing is shown and there are no files. -/
def bareDesk (S : Surroundings σ) : Desk σ where
  surroundings _ := S
  present _ _ := pure ()
  listenTo _ := pure ()
  files := pure {}
  replaceFiles _ := pure ()

/-- An agent that serves is run behind a reverse tunnel and connects twice; once
its video has ended, the listener and both connections are closed, the tunnel is
removed, and the agent is killed and waited for. -/
theorem serving_session_taken_down :
    let z := session (bareDesk serving).traced serving.traced "agent" none {} ({}, {}, [])
    z.1 = .ok () ∧ z.2.2.2.ran = [{ handle := 0, pid := none }] ∧
      z.2.2.2.ran.Perm z.2.2.2.reaped ∧ z.2.2.2.opened = [0, 1] ∧
      z.2.2.2.opened.Perm z.2.2.2.closed ∧ z.2.2.2.bound = [27183] ∧
      z.2.2.2.bound.Perm z.2.2.2.freed ∧ z.2.2.2.MadeAt 1 ∧ ∃! j, z.2.2.2.RemovedAt 1 j := by
  intro z
  have hok : z.1 = .ok () := by decide +kernel
  have hran : z.2.2.2.ran = [{ handle := 0, pid := none }] := by decide +kernel
  have hopened : z.2.2.2.opened = [0, 1] := by decide +kernel
  have hbound : z.2.2.2.bound = [27183] := by decide +kernel
  have hmade : (z.2.2.2[1]?.bind Event.made?).isSome = true := by decide +kernel
  have htaken := session_takes_down (bareDesk serving) serving "agent" none {} {} (r := z.1)
    (s := z.2.1) (x := z.2.2) rfl
  -- From here on only what was evaluated is known of the run.
  clear_value z
  obtain ⟨-, ⟨-, honce⟩, hprocesses, ⟨hstreams, hports⟩, -⟩ := htaken (by rw [hok]; simp)
  have hmade : z.2.2.2.MadeAt 1 := by
    obtain ⟨d, hd⟩ := Option.isSome_iff_exists.1 hmade
    obtain ⟨e, he, hm⟩ := Option.bind_eq_some_iff.1 hd
    exact ⟨e, he, congrArg Option.isSome hm⟩
  exact ⟨hok, hran, hprocesses, hopened, hstreams, hbound, hports, hmade, honce 1 hmade⟩

end

end Program

end DeviceLink
