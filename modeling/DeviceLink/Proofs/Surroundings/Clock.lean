import DeviceLink.Proofs.Surroundings.Trace
/-!
# Surroundings — with a clock

Only letting time pass takes time, and a process that exits by itself does so at
a moment of its own. `Surroundings.Clock` says what this asks of the acts that a
session is taken down with; of how the processes come to exit it says nothing,
and of waiting for one and of killing one nothing but that the first gives
something when the process is gone and that the second makes it so.
-/

namespace DeviceLink

namespace Surroundings

variable {σ : Type} (S : Surroundings σ)

/-- Waiting for a process gives something, be it a failure. -/
def Gone (p : RunningAgent) (w : σ) : Prop := (S.ended? p w).1.isSome = true

instance (p : RunningAgent) (w : σ) : Decidable (S.Gone p w) :=
  inferInstanceAs (Decidable (_ = true))

/-- An act takes no time, and does not bring a process back. -/
structure Brief (now : σ → Nat) (w w' : σ) : Prop where
  now : now w' = now w
  gone : ∀ p, S.Gone p w → S.Gone p w'

/-- An act takes no time and does nothing to processes. -/
structure Spares (now : σ → Nat) (exit : RunningAgent → σ → Option Nat) (w w' : σ) : Prop where
  now : now w' = now w
  exit : ∀ p, exit p w' = exit p w
  gone : ∀ p, S.Gone p w' ↔ S.Gone p w

/-- **A clock**, and when the processes that are still there exit by themselves,
if they do. What is done with the bridge and with connections may change when. -/
structure Clock where
  /-- The time, in milliseconds. -/
  now : σ → Nat
  /-- When a process that is not gone will be. -/
  exit : RunningAgent → σ → Option Nat
  report : ∀ r w, S.Spares now exit w (S.report r w).2
  bridge : ∀ serial c w, S.Brief now w (S.bridge serial c w).2
  unlisten : ∀ port w, S.Brief now w (S.unlisten port w).2
  close : ∀ x w, S.Brief now w (S.close x w).2
  /-- To find that a process has ended takes no time. -/
  ended : ∀ p w, now (S.ended? p w).2 = now w
  /-- A process that is killed is gone, even where the kill gives a failure. -/
  kill : ∀ p w, S.Gone p (S.kill p w).2 ∧ now (S.kill p w).2 = now w
  /-- What happens next does so in time, and nothing for ever. -/
  passes : ∀ {limit w d w'}, S.next? limit w = (some d, w') →
    now w' = now w + d ∧ (∀ r, limit = some r → d ≤ r) ∧ S.horizon w' < S.horizon w
  /-- A process is gone when it exits. -/
  comes : ∀ {limit w d w' p}, S.next? limit w = (some d, w') → ¬ S.Gone p w →
    (S.Gone p w' → exit p w = some (now w')) ∧ (¬ S.Gone p w' → exit p w' = exit p w)
  /-- Nothing happens next in time if no process exits in time. -/
  stays : ∀ {limit w w'}, S.next? limit w = (none, w') → S.Spares now exit w w' ∧
    ∀ p m, ¬ S.Gone p w → exit p w = some m → ∃ r, limit = some r ∧ now w + r ≤ m
  sleep : ∀ time w, now (S.sleep time w).2 = now w + time ∧
    ∀ p, ¬ S.Gone p w → (∀ m, exit p w = some m → now w + time < m) →
      ¬ S.Gone p (S.sleep time w).2

variable {S}

theorem Brief.refl {now : σ → Nat} (w : σ) : S.Brief now w w := ⟨rfl, fun _ => id⟩

theorem Brief.trans {now : σ → Nat} {w w₁ w₂ : σ} (h : S.Brief now w w₁) (h' : S.Brief now w₁ w₂) :
    S.Brief now w w₂ := ⟨h'.now.trans h.now, fun p hp => h'.gone p (h.gone p hp)⟩

theorem Spares.refl {now : σ → Nat} {exit : RunningAgent → σ → Option Nat} (w : σ) :
    S.Spares now exit w w := ⟨rfl, fun _ => rfl, fun _ => .rfl⟩

end Surroundings

end DeviceLink
