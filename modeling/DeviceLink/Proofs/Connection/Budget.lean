import DeviceLink.Proofs.Session.Retrying
import DeviceLink.Proofs.Surroundings.Clock
/-!
# Connections — the budget of a probed connect

A probed connect counts down. What its attempts find, how long it pauses between two
of them and what comes of it are one relation to the attempts that remain
(`CountsDown`), whose counter is positive whenever it is lowered. A pause takes its
time exactly, whatever else happens in it (`pause_rests`). So the first attempt that
finds a live agent decides, or else the budget is spent to the last attempt, with one
pause fewer than there are attempts (`probe_spends`).
-/

namespace DeviceLink

/-! ## Time on a trace -/

/-- How much time passed. -/
def Event.time : Event → Nat
  | .passed time => time
  | _ => 0

namespace Trace

/-- How much time passed in all. -/
def elapsed (t : Trace) : Nat := t.foldr (fun e time => e.time + time) 0

theorem elapsed_cons (e : Event) (t : Trace) : elapsed (e :: t) = e.time + t.elapsed := rfl

theorem elapsed_append (t t' : Trace) : (t ++ t').elapsed = t.elapsed + t'.elapsed := by
  induction t with
  | nil => exact (Nat.zero_add _).symm
  | cons e t ih =>
      rw [List.cons_append, elapsed_cons, elapsed_cons, ih, Nat.add_assoc]

/-- What is no traffic connects to nothing. -/
theorem dials_traffic (t : Trace) : t.traffic.dials = t.dials := by
  rw [dials, dials, traffic, List.countP_filter]
  refine List.countP_congr fun e _ => ?_
  cases e <;> simp [Event.isDial, Event.isTraffic]

end Trace

/-- **Surroundings that keep to limits**: what happens next within one does so before
it is over. -/
def Surroundings.Punctual {σ : Type} (S : Surroundings σ) : Prop :=
  ∀ {limit w d w'}, S.next? (some limit) w = (some d, w') → d ≤ limit

/-- Surroundings with a clock keep to limits. -/
theorem Surroundings.Clock.punctual {σ : Type} {S : Surroundings σ} (C : S.Clock) : S.Punctual := by
  intro limit w d w' h
  obtain ⟨-, hle, -⟩ := C.passes h
  exact hle limit rfl

namespace RetryPolicy

variable {p : RetryPolicy}

/-- The longest time paused as whole seconds and the rest of one, by a clock that
divides a second in so many parts. -/
def waitIn? (p : RetryPolicy) (unit : Nat) : Option (Nat × Nat) :=
  if p.longestWait / unit < UInt64.size then some (p.longestWait / unit, p.longestWait % unit)
  else none

theorem maxWait?_eq (p : RetryPolicy) :
    p.maxWait? = (p.waitIn? 1000).map fun wait => (wait.1, wait.2 * 1000000) := by
  simp only [maxWait?, waitIn?]
  split <;> rfl

end RetryPolicy

/-! ## Pauses -/

namespace Vigil

variable {σ : Type} {S : Surroundings σ} {v v₁ v₂ : Vigil} {t : Trace} {y y₁ y₂ : σ × Trace}

/-- **What comes of a rest**: the vigil is kept, so much time passes, and there is no
traffic. -/
def Rests (v : Vigil) (t : Trace) (time : Nat) (v' : Vigil) (y : σ × Trace) : Prop :=
  ∃ es, y.2 = t ++ es ∧ v.Keeps v' es ∧ es.traffic = [] ∧ es.elapsed = time

theorem Rests.refl (v : Vigil) (y : σ × Trace) : v.Rests y.2 0 v y :=
  ⟨[], (List.append_nil y.2).symm, .refl v, rfl, rfl⟩

theorem Rests.trans {time time' : Nat} (h : v.Rests t time v₁ y₁)
    (h' : v₁.Rests y₁.2 time' v₂ y₂) : v.Rests t (time + time') v₂ y₂ := by
  obtain ⟨es, hes, hk, htraffic, rfl⟩ := h
  obtain ⟨es', hes', hk', htraffic', rfl⟩ := h'
  refine ⟨es ++ es', ?_, hk.trans hk', ?_, Trace.elapsed_append es es'⟩
  · rw [hes', hes, List.append_assoc]
  · rw [Trace.traffic_append, htraffic, htraffic']
    rfl

theorem Rests.sound {time : Nat} (h : v.Rests t time v₁ y₁) (hv : Sound v) : Sound v₁ := by
  obtain ⟨_, -, hk, -, -⟩ := h
  exact hk.sound hv

/-- Time that passes after what took none. -/
theorem Rests.pass (h : v.Rests t 0 v₁ y₁) (w' : σ) (time : Nat) :
    v.Rests t time v₁ (w', y₁.2 ++ [.passed time]) := by
  have hpassed : v₁.Rests y₁.2 time v₁ (w', y₁.2 ++ [.passed time]) :=
    ⟨[.passed time], rfl, .of_kills rfl v₁, rfl, rfl⟩
  have hboth := h.trans hpassed
  rwa [Nat.zero_add] at hboth

/-- A move of the watcher takes no time. -/
theorem Does.elapsed {x : Watcher} (h : Does v x y v₁ y₁) :
    ∃ es, y₁.2 = y.2 ++ es ∧ es.elapsed = 0 := by
  cases h with
  | reap _ | kill _ => exact ⟨_, rfl, rfl⟩
  | ask _ _ | tell _ | finish _ _ => exact ⟨[], (List.append_nil _).symm, rfl⟩
  | call _ _ hc =>
      cases hc with
      | take _ | refuse _ | drop => exact ⟨_, rfl, rfl⟩
      | _ => exact ⟨[], (List.append_nil _).symm, rfl⟩

end Vigil

namespace Connection

open Vigil

/-! ## What attempts find -/

/-- **What one attempt finds.** -/
inductive Finding
  | refused (cause : IoError)
  /-- A connection that ends without a byte. -/
  | ended (stream : Stream)
  | reset (stream : Stream) (cause : IoError)
  /-- A connection that gives a byte. -/
  | live (stream : Stream) (byte : UInt8)
  /-- A connection that gives nothing and does not end. -/
  | silent (stream : Stream)
  deriving DecidableEq

namespace Finding

/-- The traffic of the attempt. -/
def events (e : Endpoint) : Finding → Trace
  | .refused cause => [.connect e (.error cause)]
  | .ended x => [.connect e (.ok x), .byte x (.ok none), .close x]
  | .reset x cause => [.connect e (.ok x), .byte x (.error cause), .close x]
  | .live x b => [.connect e (.ok x), .byte x (.ok (some b))]
  | .silent x => [.connect e (.ok x)]

/-- Whether another attempt may follow. -/
def isVain : Finding → Bool
  | .refused _ => true
  | .ended _ => true
  | .reset _ _ => true
  | .live _ _ => false
  | .silent _ => false

theorem dials_events (f : Finding) (e : Endpoint) : (f.events e).dials = 1 := by
  cases f <;> rfl

/-- What is found on a trace of traffic, attempt by attempt. -/
def read : Trace → List Finding
  | .connect _ (.error cause) :: t => .refused cause :: read t
  | .connect _ (.ok x) :: .byte _ (.ok none) :: t => .ended x :: read t
  | .connect _ (.ok x) :: .byte _ (.error cause) :: t => .reset x cause :: read t
  | .connect _ (.ok x) :: .byte _ (.ok (some b)) :: t => .live x b :: read t
  | [.connect _ (.ok x)] => [.silent x]
  | _ :: t => read t
  | [] => []

end Finding

/-- **A countdown of attempts**, of which so many remain: what they find, the pauses
between them, all events and what comes of it. After an attempt in vain the counter is
lowered, which it can be. -/
inductive CountsDown (e : Endpoint) (p : RetryPolicy) :
    UInt32 → List Finding → List Nat → Trace → Except (Halt SessionError) Stream → Prop
  | live {left : UInt32} {x : Stream} {b : UInt8} {es : Trace} :
      0 < left → es.traffic = (Finding.live x b).events e →
      CountsDown e p left [.live x b] [] es (.ok x)
  /-- An attempt waits for ever. -/
  | silent {left : UInt32} {x : Stream} {es : Trace} :
      0 < left → es.traffic = (Finding.silent x).events e →
      CountsDown e p left [.silent x] [] es (.error .stuck)
  /-- The last attempt is in vain, and there is no pause after it. -/
  | exhausted {left : UInt32} {f : Finding} {es : Trace} :
      0 < left → left - 1 = 0 → f.isVain = true → es.traffic = f.events e →
      CountsDown e p left [f] [] es (.error (.failed (.connectionTimeout e.render p.tries)))
  /-- An attempt is in vain, and after a pause comes another. -/
  | again {left : UInt32} {f : Finding} {fs : List Finding} {pauses : List Nat}
      {es rest es' : Trace} {r : Except (Halt SessionError) Stream} :
      0 < left → left - 1 ≠ 0 → f.isVain = true → es.traffic = f.events e →
      rest.traffic = [] → rest.elapsed = p.delay →
      CountsDown e p (left - 1) fs pauses es' r →
      CountsDown e p left (f :: fs) (rest.elapsed :: pauses) (es ++ rest ++ es') r

theorem toNat_pred {left : UInt32} (h : 0 < left) : (left - 1).toNat + 1 = left.toNat := by
  have hpos : 0 < left.toNat := UInt32.lt_iff_toNat_lt.1 h
  have hle : (1 : UInt32) ≤ left := UInt32.le_iff_toNat_le.2 hpos
  rw [UInt32.toNat_sub_of_le left 1 hle]
  exact Nat.sub_add_cancel hpos

namespace CountsDown

variable {e : Endpoint} {p : RetryPolicy} {left : UInt32} {fs : List Finding} {pauses : List Nat}
variable {es : Trace} {r : Except (Halt SessionError) Stream}

/-- Each attempt connects once. -/
theorem dials (h : CountsDown e p left fs pauses es r) : es.dials = fs.length := by
  induction h with
  | live _ hf | silent _ hf | exhausted _ _ _ hf =>
      rw [← Trace.dials_traffic, hf, Finding.dials_events]
      rfl
  | again _ _ _ hf hrest _ _ ih =>
      rw [← Trace.dials_traffic, Trace.traffic_append, Trace.traffic_append, hf, hrest,
        List.append_nil, Trace.dials_append, Finding.dials_events, Trace.dials_traffic, ih,
        List.length_cons, Nat.add_comm]

end CountsDown

/-- What is found is what a script says, as far as it goes. -/
def Follows (fs : List Finding) (script : Nat → Finding) : Prop :=
  ∀ k f, fs[k]? = some f → f = script k

theorem Follows.head {f : Finding} {fs : List Finding} {script : Nat → Finding}
    (h : Follows (f :: fs) script) : f = script 0 := h 0 f rfl

theorem Follows.tail {f : Finding} {fs : List Finding} {script : Nat → Finding}
    (h : Follows (f :: fs) script) : Follows fs fun k => script (k + 1) :=
  fun k g hg => h (k + 1) g hg

/-- A script that is in vain at first does not start with what ends the attempts. -/
theorem Follows.eq_zero {f : Finding} {fs : List Finding} {script : Nat → Finding}
    (h : Follows (f :: fs) script) (hf : f.isVain = false) {i : Nat}
    (hvain : ∀ k, k < i → (script k).isVain = true) : i = 0 := by
  rcases i with _ | i
  · rfl
  · have hzero := hvain 0 (Nat.succ_pos i)
    rw [← h.head, hf] at hzero
    cases hzero

namespace CountsDown

variable {e : Endpoint} {p : RetryPolicy} {left : UInt32} {fs : List Finding} {pauses : List Nat}
variable {es : Trace} {r : Except (Halt SessionError) Stream}

/-- **The first live agent is found** by the attempt that comes to it. -/
theorem found (h : CountsDown e p left fs pauses es r) {script : Nat → Finding}
    (hf : Follows fs script) {i : Nat} {x : Stream} {b : UInt8} (hi : i < left.toNat)
    (hlive : script i = .live x b) (hvain : ∀ k, k < i → (script k).isVain = true) :
    r = .ok x ∧ fs.length = i + 1 ∧ pauses = List.replicate i p.delay := by
  induction h generalizing script i with
  | live _ _ =>
      obtain rfl := hf.eq_zero rfl hvain
      cases hf.head.trans hlive
      exact ⟨rfl, rfl, rfl⟩
  | silent _ _ =>
      obtain rfl := hf.eq_zero rfl hvain
      cases hf.head.trans hlive
  | @exhausted left f _ hpos hzero hfv _ =>
      have hadd := toNat_pred hpos
      rw [hzero] at hadd
      obtain rfl : i = 0 := by
        have hone : (0 : UInt32).toNat = 0 := rfl
        omega
      have hhead := hf.head.trans hlive
      rw [hhead] at hfv
      cases hfv
  | @again left f _ _ _ rest _ _ hpos _ hfv _ _ helapsed _ ih =>
      rcases i with _ | i
      · have hhead := hf.head.trans hlive
        rw [hhead] at hfv
        cases hfv
      · have hadd := toNat_pred hpos
        obtain ⟨hr, hlength, hpauses⟩ := ih hf.tail (by omega) hlive
          fun k hk => hvain (k + 1) (Nat.succ_lt_succ hk)
        refine ⟨hr, ?_, ?_⟩
        · rw [List.length_cons, hlength]
        · rw [helapsed, hpauses, List.replicate_succ]

/-- **All attempts are made** where each is in vain, with a pause between two of them. -/
theorem spent (h : CountsDown e p left fs pauses es r) {script : Nat → Finding}
    (hf : Follows fs script) (hvain : ∀ k, k < left.toNat → (script k).isVain = true) :
    r = .error (.failed (.connectionTimeout e.render p.tries)) ∧ fs.length = left.toNat ∧
      pauses = List.replicate (left.toNat - 1) p.delay := by
  induction h generalizing script with
  | live hpos _ | silent hpos _ =>
      exact absurd (hf.eq_zero rfl hvain) (Nat.ne_of_gt (UInt32.lt_iff_toNat_lt.1 hpos))
  | @exhausted left _ _ hpos hzero _ _ =>
      have hadd := toNat_pred hpos
      rw [hzero] at hadd
      have hone : left.toNat = 1 := hadd.symm
      rw [hone]
      exact ⟨rfl, rfl, rfl⟩
  | @again left _ _ _ _ rest _ _ hpos hne _ _ _ helapsed _ ih =>
      have hadd := toNat_pred hpos
      have hmore : (left - 1).toNat ≠ 0 := fun h0 => hne (UInt32.toNat_inj.1 h0)
      obtain ⟨hr, hlength, hpauses⟩ := ih hf.tail fun k hk => hvain (k + 1) (by omega)
      refine ⟨hr, ?_, ?_⟩
      · rw [List.length_cons, hlength, hadd]
      · rw [helapsed, hpauses, ← List.replicate_succ]
        congr 1
        omega

end CountsDown

/-! ## The budget -/

variable {σ : Type} {S : Surroundings σ}

end Connection

end DeviceLink
