import DeviceLink.Number.Rounding
/-!
# Text — byte counts

A count of bytes written in the largest of four units it fills. Bytes are
written as they are; the larger units show one decimal of the exact quotient,
a half going to the even digit, of the count as a double-precision number
holds it.
-/

namespace DeviceLink

namespace ByteSize

/-- A unit bytes are counted in. -/
inductive Scale
  | bytes
  | kibi
  | mebi
  | gibi
  deriving DecidableEq, Repr

/-- How the unit is written. -/
def Scale.symbol : Scale → String
  | .bytes => "B"
  | .kibi => "KiB"
  | .mebi => "MiB"
  | .gibi => "GiB"

/-- How many bytes the unit holds. -/
def Scale.size : Scale → Nat
  | .bytes => 1
  | .kibi => 1024
  | .mebi => 1024 * 1024
  | .gibi => 1024 * 1024 * 1024

/-- The largest unit a count fills. -/
def scaleOf (count : Nat) : Scale :=
  if count < Scale.kibi.size then .bytes
  else if count < Scale.mebi.size then .kibi
  else if count < Scale.gibi.size then .mebi
  else .gibi

/-- The count in tenths of a unit. -/
def tenths (count : Nat) (scale : Scale) : Nat :=
  Number.roundDiv (10 * count) scale.size

/-- The count as it is shown. -/
def render (count : Nat) : String :=
  let held := Number.toDouble count
  match scaleOf held with
  | .bytes => s!"{count} {Scale.bytes.symbol}"
  | scale =>
    let t := tenths held scale
    s!"{t / 10}.{t % 10} {scale.symbol}"

/-- A count in the unit it fills is at least one of them. -/
theorem size_le_of_scaleOf {count : Nat} (h : scaleOf count ≠ .bytes) :
    (scaleOf count).size ≤ count := by
  unfold scaleOf at h ⊢
  split at h
  · exact absurd rfl h
  · next h1 =>
    split
    · next h2 => exact absurd h2 h1
    · split
      · omega
      · split <;> omega

example : render 1310720 = "1.2 MiB" := by decide +kernel
example : render 1048525 = "1024.0 KiB" := by decide +kernel
example : render 18446744073709551615 = "17179869184.0 GiB" := by decide +kernel

end ByteSize

end DeviceLink
