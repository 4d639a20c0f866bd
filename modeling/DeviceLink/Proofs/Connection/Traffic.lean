import DeviceLink.Proofs.Watcher.Order
import DeviceLink.Proofs.Watcher.Steady
/-!
# Connections — their traffic

A watcher causes no traffic and neither does time, so the traffic of every way
of connecting is known exactly. An accept takes one connection or none. A probe
connects, reads one byte at most and closes what is not served; attempts are
probes in vain and one that finds a live agent, and the connect that follows
reads nothing. Meanwhile the vigil is kept.
-/

namespace DeviceLink

namespace Vigil

variable {σ α β : Type}

/-- What comes of a vigil that is kept, with some traffic. -/
def Kept (v : Vigil) (t : Trace) (traffic : Trace) (v' : Vigil) (y : σ × Trace) : Prop :=
  ∃ es, y.2 = t ++ es ∧ v.Keeps v' es ∧ es.traffic = traffic

theorem Kept.refl (v : Vigil) (w : σ) (t : Trace) : v.Kept t [] v (w, t) :=
  ⟨[], (List.append_nil t).symm, .refl v, rfl⟩

theorem Kept.sound {v v' : Vigil} {t a : Trace} {y : σ × Trace} (h : v.Kept t a v' y)
    (hv : Sound v) : Sound v' := by
  obtain ⟨_, -, hk, -⟩ := h
  exact hk.sound hv

theorem Kept.trans {v v₁ v₂ : Vigil} {t a b : Trace} {y y' : σ × Trace} (h : v.Kept t a v₁ y)
    (h' : v₁.Kept y.2 b v₂ y') : v.Kept t (a ++ b) v₂ y' := by
  obtain ⟨es, hes, hk, rfl⟩ := h
  obtain ⟨es', hes', hk', rfl⟩ := h'
  refine ⟨es ++ es', ?_, hk.trans hk', Trace.traffic_append ..⟩
  rw [hes', hes, List.append_assoc]

/-- What happens beside the vigil, if no process is killed. -/
theorem Kept.beside {v v' : Vigil} {w : σ} {t t' a : Trace} (h : v.Kept t a v' (w, t'))
    (w' : σ) (es : Trace) (hkills : es.kills = []) :
    v.Kept t (a ++ es.traffic) v' (w', t' ++ es) :=
  h.trans ⟨es, rfl, .of_kills hkills v', rfl⟩

/-- **An act beside a watcher** that keeps the vigil, with traffic that goes
with what it gives. -/
def Carries (v : Vigil) (t : Trace) (D : Trace → α → Prop) (y : α × Vigil × σ × Trace) : Prop :=
  ∃ es, v.Kept t es y.2.1 y.2.2 ∧ D es y.1

/-- What was done before counts as well. -/
theorem Kept.carries {v v₁ : Vigil} {w₁ : σ} {t t₁ pre : Trace} {D E : Trace → α → Prop}
    {y : α × Vigil × σ × Trace} (h : v.Kept t pre v₁ (w₁, t₁)) (h' : v₁.Carries t₁ D y)
    (hE : ∀ {es}, D es y.1 → E (pre ++ es) y.1) : v.Carries t E y := by
  obtain ⟨es, hk, hD⟩ := h'
  exact ⟨pre ++ es, h.trans hk, hE hD⟩

/-- **A vigil in order is kept while an owner waits**, without any traffic. -/
theorem steady_kept {κ : Type} {v : Vigil} (hv : Sound v) {t : Trace} (traffic : κ → Trace) :
    Steady (σ := σ) fun k v' y => v.Kept t (traffic k) v' y where
  watch h hx hm := by
    obtain ⟨es, hes, hk, htraffic⟩ := hm.keeps hx (h.sound hv)
    have hnext := h.trans ⟨es, hes, hk, htraffic⟩
    rwa [List.append_nil] at hnext
  pass {k} _ _ _ w' times h := by
    have hnext := h.beside w' _ (Trace.kills_passed times)
    rwa [Trace.traffic_passed, List.append_nil] at hnext

/-- A call of the owner gives what it has as traffic. -/
theorem advances_kept {v : Vigil} {l : Listener} (hl : v.listener = some l) {t : Trace} :
    Advances (σ := σ) fun c v' y => v.Kept t (c.given l.bound) v' y := by
  intro c v' y k c' k' y' h hk hm
  obtain ⟨es, hes, hkeep, hgiven⟩ := keeps_advance hk hm
  have hplace : k.place = l.place := by
    obtain ⟨_, -, hkeep, -⟩ := h
    have hplace := hkeep.listener
    rw [hl, hk] at hplace
    exact Option.some.inj hplace
  have hbound : k.bound = l.bound := congrArg Prod.snd hplace
  rw [hbound] at hgiven
  rw [hgiven]
  exact h.trans ⟨es, hes, hkeep, rfl⟩

end Vigil

namespace Connection

open Vigil

variable {σ : Type} (S : Surroundings σ)

/-! ## Accepting -/

/-- **The traffic of an accept** on a port: at most one arrival. -/
inductive Accepted (bound : Port) : Trace → Except (Halt SessionError) Stream → Prop
  | taken {stream : Stream} : Accepted bound [.arrival bound (.ok stream)] (.ok stream)
  /-- A connection that was lost. -/
  | lost {cause : IoError} :
      Accepted bound [.arrival bound (.error cause)] (.error (.failed .remoteDied))
  | closed : Accepted bound [] (.error (.failed .remoteDied))
  /-- It waits for ever. -/
  | stuck {es : Trace} : (∀ e ∈ es, ∃ r, e = .arrival bound r) → Accepted bound es (.error .stuck)

theorem Accepted.opened {bound : Port} {es : Trace} {x : Stream} (h : Accepted bound es (.ok x)) :
    .arrival bound (.ok x) ∈ es := by
  cases h with
  | taken => exact List.mem_cons_self

theorem accept_carries {v : Vigil} (hv : Sound v) {l : Listener} (hl : v.listener = some l)
    (w : σ) (t : Trace) :
    v.Carries t (Accepted l.bound) (accept S.traced (v, w, t)) := by
  rcases hy : accept S.traced (v, w, t) with ⟨r, v', y'⟩
  have hend := (steady_kept hv fun c => c.given l.bound).accept (advances_kept hl)
    (Kept.refl v w t) (by rw [hl]; rfl) hy
  rcases r with (e | _) | stream
  · obtain ⟨rfl, hk | ⟨cause, hk⟩⟩ := hend
    · exact ⟨_, hk, .closed⟩
    · exact ⟨_, hk, .lost⟩
  · obtain ⟨c, hk, -⟩ := hend
    refine ⟨_, hk, .stuck fun e he => ?_⟩
    cases c with
    | accepted found =>
        rcases found with _ | stream
        · cases he
        · exact ⟨_, List.mem_singleton.1 he⟩
    | refused cause => exact ⟨_, List.mem_singleton.1 he⟩
    | _ => cases he
  · exact ⟨_, hend, .taken⟩

/-! ## Probing -/

/-- **The traffic of one probe.** A connection that gives no byte is closed. -/
inductive Probed (e : Endpoint) : Trace → Except (Halt SessionError) (Option Stream) → Prop
  | refused {cause : IoError} : Probed e [.connect e (.error cause)] (.ok none)
  | ended {x : Stream} :
      Probed e [.connect e (.ok x), .byte x (.ok none), .close x] (.ok none)
  | reset {x : Stream} {cause : IoError} :
      Probed e [.connect e (.ok x), .byte x (.error cause), .close x] (.ok none)
  | live {x : Stream} {b : UInt8} :
      Probed e [.connect e (.ok x), .byte x (.ok (some b))] (.ok (some x))
  /-- It waits for ever. -/
  | silent {x : Stream} : Probed e [.connect e (.ok x)] (.error .stuck)

theorem readByte_carries {v : Vigil} (hv : Sound v) (x : Stream) (w : σ) (t : Trace) :
    v.Carries t (fun es r => es = r.toList.map (.byte x)) (readByte S.traced x (v, w, t)) := by
  rcases hy : readByte S.traced x (v, w, t) with ⟨r, v', y'⟩
  have hend := (steady_kept hv fun r => r.toList.map (Event.byte x)).readByte
    (fun w' b h => h.beside w' [.byte x b] rfl) (Kept.refl v w t) hy
  exact ⟨_, hend, rfl⟩

theorem probeOnce_carries {v : Vigil} (hv : Sound v) (e : Endpoint) (w : σ) (t : Trace) :
    v.Carries t (Probed e) (probeOnce S.traced e (v, w, t)) := by
  have hconnect : S.traced.connect e (w, t) =
      ((S.connect e w).1, (S.connect e w).2, t ++ [.connect e (S.connect e w).1]) := rfl
  simp only [probeOnce, act, Trial.bind_apply, Trial.lift_apply, Vigil.outside_apply, hconnect]
  rcases S.connect e w with ⟨cause | x, w₁⟩
  · exact ⟨_, (Kept.refl v w t).beside _ _ rfl, .refused⟩
  have h₁ : v.Kept t [.connect e (.ok x)] v (w₁, t ++ [.connect e (.ok x)]) :=
    (Kept.refl v w t).beside _ _ rfl
  obtain ⟨es, hk, hes⟩ := readByte_carries S hv x w₁ (t ++ [.connect e (.ok x)])
  simp only [Trial.bind_apply, Trial.lift_apply]
  generalize readByte S.traced x (v, w₁, t ++ [.connect e (.ok x)]) = y at hk hes ⊢
  obtain ⟨r, v₂, w₂, t₂⟩ := y
  obtain rfl : es = r.toList.map (.byte x) := hes
  have h₂ := h₁.trans hk
  -- What is not live is closed, and that is all that happens after the byte.
  have hclose : S.traced.close x (w₂, t₂) = ((), (S.close x w₂).2, t₂ ++ [.close x]) := rfl
  rcases r with _ | cause | _ | b
  · exact ⟨_, h₂, .silent⟩
  · simp only [Trial.bind_apply, Trial.lift_apply, Vigil.outside_apply, hclose]
    exact ⟨_, h₂.beside _ _ rfl, .reset⟩
  · simp only [Trial.bind_apply, Trial.lift_apply, Vigil.outside_apply, hclose]
    exact ⟨_, h₂.beside _ _ rfl, .ended⟩
  · exact ⟨_, h₂, .live⟩

/-- **The traffic of a number of attempts**: probes in vain, and at most one
that finds a live agent. -/
inductive Tried (e : Endpoint) : Nat → Trace → Except (Halt SessionError) Stream → Prop
  | exhausted {tries : UInt32} :
      Tried e 0 [] (.error (.failed (.connectionTimeout e.render tries)))
  | live {n : Nat} {es : Trace} {x : Stream} : Probed e es (.ok (some x)) → Tried e (n + 1) es (.ok x)
  | vain {n : Nat} {es es' : Trace} {r : Except (Halt SessionError) Stream} :
      Probed e es (.ok none) → Tried e n es' r → Tried e (n + 1) (es ++ es') r
  /-- A probe waits for ever. -/
  | silent {n : Nat} {es : Trace} :
      Probed e es (.error .stuck) → Tried e (n + 1) es (.error .stuck)

/-- Attempts fail for having found no agent in time, or wait for ever. -/
theorem Tried.error {e : Endpoint} {n : Nat} {es : Trace} {h : Halt SessionError}
    (ht : Tried e n es (.error h)) :
    h = .stuck ∨ ∃ n, h = .failed (.connectionTimeout e.render n) := by
  generalize hr : (Except.error h : Except (Halt SessionError) Stream) = r at ht
  induction ht with
  | exhausted => cases hr; exact .inr ⟨_, rfl⟩
  | live _ => cases hr
  | vain _ _ ih => exact ih hr
  | silent _ => cases hr; exact .inl rfl

/-- The live agent that was found had been connected to. -/
theorem Tried.opened {e : Endpoint} {n : Nat} {es : Trace} {x : Stream}
    (h : Tried e n es (.ok x)) : .connect e (.ok x) ∈ es := by
  generalize hr : (Except.ok x : Except (Halt SessionError) Stream) = r at h
  induction h with
  | exhausted | silent _ => cases hr
  | live hp =>
      cases hr
      cases hp with
      | live => exact List.mem_cons_self
  | vain _ _ ih => exact List.mem_append_right _ (ih hr)

/-- An attempt connects. -/
theorem Tried.begun {e : Endpoint} {n : Nat} {es : Trace}
    {r : Except (Halt SessionError) Stream} (h : Tried e (n + 1) es r) :
    ∃ result, .connect e result ∈ es := by
  have hprobed : ∀ {es : Trace} {r : Except (Halt SessionError) (Option Stream)},
      Probed e es r → ∃ result, .connect e result ∈ es := by
    intro es r h
    cases h <;> exact ⟨_, List.mem_cons_self⟩
  cases h with
  | live hp | silent hp => exact hprobed hp
  | vain hp _ =>
      obtain ⟨result, hmem⟩ := hprobed hp
      exact ⟨result, List.mem_append_left _ hmem⟩

theorem attempts_carries (e : Endpoint) (policy : RetryPolicy) :
    ∀ (left : Nat) {v : Vigil} (_ : Sound v) (w : σ) (t : Trace),
      v.Carries t (Tried e left) (attempts S.traced e policy left (v, w, t)) := by
  intro left
  induction left with
  | zero => intro v _ w t; exact ⟨[], Kept.refl v w t, .exhausted⟩
  | succ left ih =>
      intro v hv w t
      obtain ⟨es, hk, hprobed⟩ := probeOnce_carries S hv e w t
      rw [attempts, Trial.bind_apply]
      generalize probeOnce S.traced e (v, w, t) = y at hk hprobed ⊢
      obtain ⟨r, v₁, w₁, t₁⟩ := y
      have hv₁ : Sound v₁ := hk.sound hv
      rcases r with h | _ | x
      · cases hprobed
        exact ⟨_, hk, .silent .silent⟩
      · by_cases hl : (left != 0) = true
        · -- There is a pause before the next attempt.
          rw [if_pos hl]
          simp only [Trial.bind_apply, Trial.lift_apply]
          have hp := (steady_kept hv₁ fun _ : Unit => []).pause (k := ()) (Kept.refl v₁ w₁ t₁)
            policy.delay (S := S)
          generalize Vigil.pause S.traced policy.delay (v₁, w₁, t₁) = y at hp ⊢
          obtain ⟨⟨⟩, v₂, w₂, t₂⟩ := y
          have hk₂ := hk.trans hp
          rw [List.append_nil] at hk₂
          exact hk₂.carries (ih (hp.sound hv₁) w₂ t₂) (Tried.vain hprobed)
        · rw [if_neg hl]
          exact hk.carries (ih hv₁ w₁ t₁) (Tried.vain hprobed)
      · exact ⟨es, hk, .live hprobed⟩

theorem probe_carries {v : Vigil} (hv : Sound v) (e : Endpoint) (policy : RetryPolicy) (w : σ)
    (t : Trace) : v.Carries t (Tried e policy.tries.toNat) (probe S.traced e policy (v, w, t)) :=
  attempts_carries S e policy _ hv w t

/-- **The traffic of a connect without a probe.** Nothing is read. -/
inductive Dialed (e : Endpoint) : Trace → Except (Halt SessionError) Stream → Prop
  | refused {cause : IoError} :
      Dialed e [.connect e (.error cause)] (.error (.failed (.connect e.render cause)))
  | dialed {x : Stream} : Dialed e [.connect e (.ok x)] (.ok x)

theorem Dialed.opened {e : Endpoint} {es : Trace} {x : Stream} (h : Dialed e es (.ok x)) :
    .connect e (.ok x) ∈ es := by
  cases h with
  | dialed => exact List.mem_cons_self

theorem connect_carries (e : Endpoint) (v : Vigil) (w : σ) (t : Trace) :
    v.Carries t (Dialed e) (connect S.traced e (v, w, t)) := by
  have hconnect : S.traced.connect e (w, t) =
      ((S.connect e w).1, (S.connect e w).2, t ++ [.connect e (S.connect e w).1]) := rfl
  simp only [connect, act, Trial.bind_apply, Trial.lift_apply, Vigil.outside_apply, hconnect]
  rcases S.connect e w with ⟨cause | x, w₁⟩
  · exact ⟨_, (Kept.refl v w t).beside _ _ rfl, .refused⟩
  · exact ⟨_, (Kept.refl v w t).beside _ _ rfl, .dialed⟩

end Connection

/-- A close of the listener has no traffic. -/
theorem Vigil.closeListener_carries {σ : Type} (S : Surroundings σ) {v : Vigil} (hv : Sound v)
    (hl : v.listener.isSome = true) (w : σ) (t : Trace) :
    v.Carries t (fun es _ => es = []) (closeListener S.traced (v, w, t)) := by
  obtain ⟨l, hl⟩ := Option.isSome_iff_exists.1 hl
  rcases hy : closeListener S.traced (v, w, t) with ⟨r, v', y'⟩
  have hend := (steady_kept hv fun c => c.given l.bound).closeListener (advances_kept hl)
    (Kept.refl v w t) (by rw [hl]; rfl) hy
  rcases r with _ | first
  · obtain ⟨c, hk, hc⟩ := hend
    refine ⟨_, hk, ?_⟩
    cases c with
    | queued | accepting | accepted _ | refused _ => cases hc
    | _ => rfl
  · exact ⟨_, hend, rfl⟩

end DeviceLink
