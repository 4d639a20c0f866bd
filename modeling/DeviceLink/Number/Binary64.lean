import DeviceLink.Number.Rounding
/-!
# Numbers — double-precision numbers and their shortest text

A double-precision number kept exactly, as a whole number times a power of
two. `ofDecimal` is the nearest one to a decimal numeral, a half going to the
even significand; `render` writes the fewest decimal digits that lie nearer to
this number than to any other, always positionally and always with a point.
-/

namespace DeviceLink

namespace Number

/-- A double-precision number. -/
inductive Binary64
  /-- The number `significand * 2 ^ exponent`, negated or not. -/
  | finite (negative : Bool) (significand : Nat) (exponent : Int)
  | infinite (negative : Bool)
  | nan
  deriving DecidableEq, Repr

namespace Binary64

/-- The exponent of the smallest numbers, where precision runs out. -/
def leastExponent : Int := -1074

/-- The exponent above which no finite number lies. -/
def greatestExponent : Int := 971

/-- A rational number as numerator and denominator, scaled by a power of a base. -/
def scaled (num base : Nat) (power : Int) : Nat × Nat :=
  match power with
  | .ofNat k => (num * base.pow k, 1)
  | .negSucc k => (num, base.pow (k + 1))

/-- The nearest double-precision number to `num / den`, both positive. -/
def ofRatio (negative : Bool) (num den : Nat) : Binary64 :=
  -- the quotient lies within a factor of two of `2 ^ lead`
  let lead : Int := (num.log2 : Int) - (den.log2 : Int)
  let below : Bool :=
    match lead with
    | .ofNat k => num < den <<< k
    | .negSucc k => num <<< (k + 1) < den
  let lead := if below then lead - 1 else lead
  let exponent := max (lead - (precision - 1 : Nat)) leastExponent
  let significand :=
    match exponent with
    | .ofNat k => roundDiv num (den <<< k)
    | .negSucc k => roundDiv (num <<< (k + 1)) den
  if significand = 1 <<< precision then
    if greatestExponent ≤ exponent then .infinite negative
    else .finite negative (1 <<< (precision - 1)) (exponent + 1)
  else if greatestExponent < exponent then .infinite negative
  else .finite negative significand exponent

/-- The nearest double-precision number to `digits * 10 ^ power`. Numerals far
outside the range are settled by their size alone. -/
def ofDecimal (negative : Bool) (digits : Nat) (power : Int) : Binary64 :=
  if digits = 0 then .finite negative 0 leastExponent
  else
    let magnitude : Int := power + (digits.log2 / 3 : Nat)
    if 400 < power then .infinite negative
    else if magnitude < -400 then .finite negative 0 leastExponent
    else
      let q := scaled digits 10 power
      ofRatio negative q.1 q.2

/-- The interval of numbers that round to `m * 2 ^ e`, in quarter units of the
last place: the value is `4 * m`. -/
def lowerQuarters (m : Nat) (e : Int) : Nat :=
  if m = 1 <<< (precision - 1) ∧ leastExponent < e then 4 * m - 1 else 4 * m - 2

/-- The candidate on the decimal grid of step `10 ^ power` that stands for the
number, if one of its two neighbours there rounds to it: the nearer of them.
All quantities are whole multiples of `1 / den` of a common unit. -/
def onGrid? (value low high step : Nat) (ends : Bool) : Option Nat :=
  let c := value / step
  let inside (x : Nat) : Bool :=
    if ends then decide (low ≤ x * step) && decide (x * step ≤ high)
    else decide (low < x * step) && decide (x * step < high)
  let below := value - c * step
  let above := (c + 1) * step - value
  match inside c, inside (c + 1) with
  | true, true => some (if below < above then c else if above < below then c + 1
                        else if c % 2 = 0 then c else c + 1)
  | true, false => some c
  | false, true => some (c + 1)
  | false, false => none

/-- The shortest decimal, as digits and a power of ten, tried on grids from the
coarsest, at `power`, to ever finer ones. -/
def shortestFrom (m : Nat) (e : Int) : Nat → Int → Nat × Int
  | 0, power => (0, power)
  | fuel + 1, power =>
    -- the common unit: a quarter of the last binary place and the decimal step
    let unit := scaled 1 2 (e - 2)
    let step := scaled 1 10 power
    let value := 4 * m * unit.1 * step.2
    let low := lowerQuarters m e * unit.1 * step.2
    let high := (4 * m + 2) * unit.1 * step.2
    match onGrid? value low high (step.1 * unit.2) (m % 2 = 0) with
    | some c => (c, power)
    | none => shortestFrom m e fuel (power - 1)

/-- The fewest digits that read back as the number, for `m` positive. The search
starts above the number's size and is over after 17 digits. -/
def shortest (m : Nat) (e : Int) : Nat × Int :=
  -- an upper bound on the decimal exponent: log10 2 < 0.30103
  let top : Int := ((m.log2 : Int) + e + 1) * 30103 / 100000 + 1
  let found := shortestFrom m e 24 top
  strip found.1 found.2 found.1.log2
where
  /-- Move trailing zeros of the digits into the power. -/
  strip (digits : Nat) (power : Int) : Nat → Nat × Int
    | 0 => (digits, power)
    | fuel + 1 =>
      if digits ≠ 0 ∧ digits % 10 = 0 then strip (digits / 10) (power + 1) fuel
      else (digits, power)

/-- `digits * 10 ^ power` written positionally, with at least one digit on each
side of the point. -/
def positional (digits : Nat) (power : Int) : String :=
  let ds := (toString digits).toList
  match power with
  | .ofNat k => String.ofList (ds ++ List.replicate k '0') ++ ".0"
  | .negSucc k =>
    let places := k + 1
    let padded := List.replicate (places + 1 - ds.length) '0' ++ ds
    let whole := padded.length - places
    String.ofList (padded.take whole ++ '.' :: padded.drop whole)

/-- The number as a user is shown it. -/
def render : Binary64 → String
  | .nan => "NaN"
  | .infinite true => "-inf"
  | .infinite false => "inf"
  | .finite negative m e =>
    let magnitude :=
      if m = 0 then "0.0"
      else
        let d := shortest m e
        positional d.1 d.2
    if negative then "-" ++ magnitude else magnitude

example : (ofDecimal false 15 (-1)).render = "1.5" := by decide +kernel
example : (ofDecimal false 1 3).render = "1000.0" := by decide +kernel
example : (ofDecimal true 0 0).render = "-0.0" := by decide +kernel
example : (ofDecimal false 30000000000000004 (-17)).render = "0.30000000000000004" := by
  decide +kernel
example : (ofDecimal false 18446744073709551616 0).render = "18446744073709552000.0" := by
  decide +kernel

end Binary64

end Number

end DeviceLink
