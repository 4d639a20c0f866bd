/-!
# Retries — how often and how long to try

A policy allows a number of attempts with a pause between two of them, so the
longest wait is one pause fewer than there are attempts. A wait is counted in
milliseconds and is representable while its whole seconds fit a 64-bit word.
-/

namespace DeviceLink

/-- How many attempts are made and how long to pause between them. -/
structure RetryPolicy where
  /-- How many attempts; none still means one. -/
  attempts : UInt32
  /-- The pause between two attempts, in milliseconds. -/
  delay : Nat
  deriving DecidableEq, Repr

namespace RetryPolicy

/-- An agent activated directly may take a while to come up. -/
def direct : RetryPolicy := ⟨12, 1000⟩

/-- An agent behind a forward tunnel is looked for often and briefly. -/
def forward : RetryPolicy := ⟨100, 100⟩

/-- The longest time paused, in milliseconds. -/
def longestWait (p : RetryPolicy) : Nat := p.delay * (p.attempts.toNat - 1)

/-- The longest time paused as whole seconds and nanoseconds, where the seconds
fit a 64-bit word. -/
def maxWait? (p : RetryPolicy) : Option (Nat × Nat) :=
  let seconds := p.longestWait / 1000
  if seconds < UInt64.size then some (seconds, p.longestWait % 1000 * 1000000) else none

/-- How many attempts are made. -/
def tries (p : RetryPolicy) : UInt32 := if p.attempts = 0 then 1 else p.attempts

theorem tries_pos (p : RetryPolicy) : 0 < p.tries.toNat := by
  unfold tries
  split
  · decide
  · next h =>
    refine Nat.pos_of_ne_zero fun h0 => h ?_
    exact UInt32.toNat_inj.1 (by simpa using h0)

end RetryPolicy

end DeviceLink
